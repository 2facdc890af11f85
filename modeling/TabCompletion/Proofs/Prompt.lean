import TabCompletion.FixtureShell.Basic
import TabCompletion.Proofs.Construction
import TabCompletion.Proofs.Pattern.Literals
import TabCompletion.Proofs.Text.Utf8
import TabCompletion.SuiteBuilder

/-!
# Prompts that are literal text

A template that comes out as literal text makes a prompt whose patterns spell that text
(`spells_of_written`), and so does the pattern for an input after it (`redraw_eq`). The prompt of the
fixture shell is one, whatever its keyspace is called: a line break, then the text of
`FixtureShell.prompt`.
-/
namespace TabCompletion.Prompt

open Pattern

variable {template : String} {context : Option String} {p : Prompt} {text : List Char}

theorem compilePart_eq_ok {source : String} {part : Pattern} :
    compilePart source = .ok part ↔ Pattern.compile false source = .ok part := by
  unfold compilePart
  cases Pattern.compile false source <;> simp

/-- A part of a prompt that is literal text spells it, in any bytes. -/
theorem part_spells {source : String} {part : Pattern} (made : compilePart source = .ok part)
    (written : Written source.toList text) :
    part.source = source ∧ part.expr.Spells (Utf8.encodeChars text) ∧ Fits (Utf8.encodeChars text) := by
  obtain ⟨e,spells,compiled⟩ := compile_written false written
  rw [compilePart_eq_ok,compiled] at made
  split at made
  next fits => cases made; exact ⟨rfl,spells,fits⟩
  next => cases made

/-- The two patterns of a prompt spell its text with and without what `trimLeading` drops. -/
theorem spells_of_written {trimmed : List Char} (made : ofTemplate template context = .ok p)
    (written : Written (fillTemplate template context).toList text)
    (trims : Written (trimLeading (fillTemplate template context)).toList trimmed) :
    p.context = context ∧ p.stream.expr.Spells (Utf8.encodeChars text) ∧
      p.lineStart.source = trimLeading (fillTemplate template context) ∧ p.lineStart.expr.Spells (Utf8.encodeChars trimmed) := by
  obtain ⟨stream,lineStart,streams,starts,rfl⟩ := ofTemplate_eq_ok.mp made
  obtain ⟨-,spells,-⟩ := part_spells streams written
  obtain ⟨source,spells',-⟩ := part_spells starts trims
  exact ⟨rfl,spells,source,spells'⟩

/-- An error that a pattern cannot be used, which names it. How the reason is worded does not matter. -/
def RefusesPattern (message pattern : String) (e : HarnessError) : Prop :=
  ∃ reason, e = .withDetails .config message [("pattern", .str pattern),("source", .str reason)]

def RefusesTemplate (pattern : String) : HarnessError → Prop := RefusesPattern "invalid prompt template" pattern

def RefusesRedraw (p : Prompt) (input : String) : HarnessError → Prop :=
  RefusesPattern "prompt template does not form a valid redraw pattern" (p.redrawSource input)

/-- The pattern of a prompt with an input after it spells both texts, if it is not too big. -/
theorem redraw_eq {source : List Char} (written : Written source text) (lineStart : p.lineStart.source.toList = source)
    (input : String) : ∃ e refusal, e.Spells (Utf8.encodeChars (text ++ input.toList)) ∧ p.RefusesRedraw input refusal ∧
      p.redraw input = if Fits (Utf8.encodeChars (text ++ input.toList)) then .ok ⟨p.redrawSource input,true,e⟩
        else .error refusal := by
  have whole : (p.redrawSource input).toList = '(' :: '?' :: ':' :: (source ++ ')' :: (escape input).toList) := by
    simp [redrawSource,lineStart]
  obtain ⟨e,spells,compiled⟩ := compile_group true written (written_escape input) whole
  refine ⟨e,_,spells,⟨Fault.tooBig.message,rfl⟩,?_⟩
  unfold redraw
  dsimp only
  rw [compiled]
  by_cases fits : Fits (Utf8.encodeChars (text ++ input.toList))
  · rw [if_pos fits,if_pos fits]
  · rw [if_neg fits,if_neg fits]

/-- The text that the fixture shell prints for its prompt. -/
def fixtureText (keyspace : String) : List Char := FixtureShell.prompt ⟨keyspace.toList,[],none⟩

/-- The pattern for that text. -/
def fixtureSource (keyspace : String) : List Char := "fake:".toList ++ (escape keyspace).toList ++ "> ".toList

theorem written_fixture (keyspace : String) : Written (fixtureSource keyspace) (fixtureText keyspace) :=
  ((written_of_plain rfl).append (written_escape keyspace)).append (written_of_plain rfl)

theorem fillTemplate_fixture (keyspace : String) :
    (fillTemplate fixturePrompt (some keyspace)).toList = '\n' :: fixtureSource keyspace := by
  unfold fillTemplate fillContext Text.replace
  rw [String.toList_ofList]
  rfl

theorem trimBlank_fixture (rest : List Char) : trimBlank ('\n' :: 'f' :: rest) = 'f' :: rest := by
  have drops : dropBlank ('\n' :: 'f' :: rest) = 'f' :: rest := rfl
  have stays : dropBlank ('f' :: rest) = 'f' :: rest := rfl
  rw [trimBlank,drops,if_pos (by simp),trimBlank,stays,if_neg (by simp)]

theorem trimLeading_fixture (keyspace : String) :
    (trimLeading (fillTemplate fixturePrompt (some keyspace))).toList = fixtureSource keyspace := by
  unfold trimLeading
  rw [fillTemplate_fixture,String.toList_ofList]
  exact trimBlank_fixture _

/-- The patterns of the fixture shell's prompt: its text after a line break, and its text alone. -/
structure IsFixture (p : Prompt) (keyspace : String) : Prop where
  context : p.context = some keyspace
  stream : p.stream.expr.Spells (Utf8.encodeChars ('\n' :: fixtureText keyspace))
  source : p.lineStart.source.toList = fixtureSource keyspace
  lineStart : p.lineStart.expr.Spells (Utf8.encodeChars (fixtureText keyspace))

theorem written_fixture_stream (keyspace : String) :
    Written (fillTemplate fixturePrompt (some keyspace)).toList ('\n' :: fixtureText keyspace) := by
  rw [fillTemplate_fixture]
  exact .plain (by decide) (written_fixture keyspace)

theorem written_fixture_lineStart (keyspace : String) :
    Written (trimLeading (fillTemplate fixturePrompt (some keyspace))).toList (fixtureText keyspace) := by
  rw [trimLeading_fixture]
  exact written_fixture keyspace

theorem isFixture {keyspace : String} (made : ofTemplate fixturePrompt (some keyspace) = .ok p) :
    p.IsFixture keyspace := by
  obtain ⟨context,stream,source,lineStart⟩ :=
    spells_of_written made (written_fixture_stream keyspace) (written_fixture_lineStart keyspace)
  exact ⟨context,stream,source ▸ trimLeading_fixture keyspace,lineStart⟩

/-- The fixture shell has a prompt in each keyspace whose name is not too long. -/
theorem ofTemplate_fixture {keyspace : String} : (∃ p, ofTemplate fixturePrompt (some keyspace) = .ok p) ↔
    Fits (Utf8.encodeChars ('\n' :: fixtureText keyspace)) := by
  constructor
  · rintro ⟨p,made⟩
    obtain ⟨stream,-,streams,-⟩ := ofTemplate_eq_ok.mp made
    exact (part_spells streams (written_fixture_stream keyspace)).2.2
  · intro fits
    obtain ⟨stream,-,streams⟩ := compile_written false (written_fixture_stream keyspace)
    obtain ⟨lineStart,-,starts⟩ := compile_written false (written_fixture_lineStart keyspace)
    rw [if_pos fits] at streams
    rw [if_pos (fits.of_length_le (by rw [Utf8.encodeChars_cons,List.length_append]; omega))] at starts
    exact ⟨_,ofTemplate_eq_ok.mpr ⟨_,_,compilePart_eq_ok.mpr streams,compilePart_eq_ok.mpr starts,rfl⟩⟩

end TabCompletion.Prompt
