import TabCompletion.Proofs.Pattern.Matches
import TabCompletion.Proofs.Pattern.Texts
import TabCompletion.Proofs.Prompt
import TabCompletion.Proofs.Prompt.Trimming
import TabCompletion.Proofs.Text.Erasing

/-!
# Templates of literal text

In a template of literal text around the placeholder, the name of the context is text as well, whatever its
characters are. The patterns of such a prompt look for that text and nothing else, and so does the pattern
with an input after it (`LooksFor`, `ofTemplate_literal`).
-/
namespace TabCompletion.Prompt

open Pattern

variable {source text : List Char} {p : Prompt}

/-- What is taken off the pattern of a text is the white space at the start of the text. -/
theorem written_trims (written : Written source text) :
    ∃ rest, Trims source rest ∧ Written rest (Text.trimStartChars text) := by
  induction written with
  | nil => exact ⟨[],.done rfl,.nil⟩
  | @plain c source text other written ih =>
    by_cases blank : Text.isBlank c = true
    · obtain ⟨rest,trims,left⟩ := ih
      refine ⟨rest,.blank blank trims,?_⟩
      rwa [Text.trimStartChars,List.dropWhile_cons_of_pos blank]
    · have slash : c ≠ '\\' := fun same => other (same ▸ by decide)
      refine ⟨c :: source,.done (dropBlank_other (Bool.not_eq_true _ ▸ blank) fun same => absurd same slash),?_⟩
      rw [Text.trimStartChars,List.dropWhile_cons_of_neg blank]
      exact .plain other written
  | @escaped c source text special written ih =>
    have stays : dropBlank ('\\' :: c :: source) = '\\' :: c :: source := by
      refine dropBlank_other rfl fun _ letter more same white => ?_
      obtain ⟨rfl,-⟩ := List.cons.inj same
      have apart : blankEscapes.all (!metaCharacters.contains ·) = true := by decide
      have plain := List.all_eq_true.mp apart c white
      simp [special] at plain
    refine ⟨_,.done stays,?_⟩
    rw [Text.trimStartChars,List.dropWhile_cons_of_neg (by simp [not_isBlank_of_meta special])]
    exact .escaped special written

theorem written_trimLeading {pattern : String} (written : Written pattern.toList text) :
    Written (trimLeading pattern).toList (Text.trimStartChars text) := by
  obtain ⟨rest,trims,left⟩ := written_trims written
  rwa [trimLeading,String.toList_ofList,trims.trimBlank_eq]

theorem fillTemplate_between {before after : String} (plain : ∀ c ∈ before.toList ++ after.toList, c ∉ metaCharacters)
    (context : String) : (fillTemplate (before ++ contextPlaceholder ++ after) (some context)).toList =
      before.toList ++ ((escape context).toList ++ after.toList) := by
  have open' : contextPlaceholder.toList = '\x7b' :: "context\x7d".toList := rfl
  have absent (s : String) (inside : ∀ c ∈ s.toList, c ∈ before.toList ++ after.toList) : '\x7b' ∉ s.toList :=
    fun member => plain _ (inside _ member) (by decide)
  unfold fillTemplate fillContext Text.replace
  rw [String.toList_ofList,String.toList_append,String.toList_append,List.append_assoc,open']
  exact Text.substitute_between (absent before fun c => List.mem_append_left _)
    (absent after fun c => List.mem_append_right _)

/-- A text around the placeholder and the name of the context are written in the filled template. -/
theorem written_between {before after : String} (plain : ∀ c ∈ before.toList ++ after.toList, c ∉ metaCharacters)
    (context : String) : Written (fillTemplate (before ++ contextPlaceholder ++ after) (some context)).toList
      (before.toList ++ (context.toList ++ after.toList)) := by
  have itself (s : String) (inside : ∀ c ∈ s.toList, c ∈ before.toList ++ after.toList) : Written s.toList s.toList :=
    written_of_plain (List.all_eq_true.mpr fun c member => by simpa using plain c (inside c member))
  rw [fillTemplate_between plain]
  exact (itself before fun c => List.mem_append_left _).append
    ((written_escape context).append (itself after fun c => List.mem_append_right _))

/-- The patterns of a prompt look for a text, and for the text without the white space at its start. -/
structure LooksFor (p : Prompt) (text : List Char) : Prop where
  stream : ∀ bytes, p.stream.isFoundIn bytes = true ↔ Utf8.encodeChars text <:+: bytes
  /-- The match in a stream is the first place of the text. -/
  first : ∀ bytes i j, p.stream.find? bytes = some (i, j) ↔
    FirstAt (Utf8.encodeChars text) bytes i ∧ j = i + (Utf8.encodeChars text).length
  lineStart : ∀ bytes, p.lineStart.isFoundIn bytes = true ↔ Utf8.encodeChars (Text.trimStartChars text) <:+: bytes
  redraw : ∀ input : String, Fits (Utf8.encodeChars (Text.trimStartChars text ++ input.toList)) →
    ∃ r, p.redraw input = .ok r ∧ ∀ line : String,
      r.isFoundIn (Utf8.encode line) = true ↔ Text.trimStartChars text ++ input.toList <:+: line.toList
  /-- The only input that is refused is one that is too long. -/
  tooBig : ∀ input : String, ¬Fits (Utf8.encodeChars (Text.trimStartChars text ++ input.toList)) →
    ∃ e, p.redraw input = .error e ∧ p.RefusesRedraw input e

/-- A prompt that is literal text looks for that text. -/
theorem looksFor_of_written {template : String} {context : Option String} (made : ofTemplate template context = .ok p)
    (written : Written (fillTemplate template context).toList text) : p.LooksFor text := by
  have trims := written_trimLeading written
  obtain ⟨-,spells,source,spells'⟩ := spells_of_written made written trims
  obtain ⟨stream,lineStart,streams,starts,rfl⟩ := ofTemplate_eq_ok.mp made
  obtain ⟨_,_,-,-,-,rfl⟩ := compile_eq_ok.mp (compilePart_eq_ok.mp streams)
  obtain ⟨_,_,-,-,-,rfl⟩ := compile_eq_ok.mp (compilePart_eq_ok.mp starts)
  have written' : Written _ _ := source ▸ trims
  constructor
  · intro bytes
    exact isFoundIn_iff spells nofun
  · intro bytes i j
    exact find?_eq_some_iff spells nofun
  · intro bytes
    exact isFoundIn_iff spells' nofun
  · intro input fits
    obtain ⟨e,_,whole,-,redraw⟩ := redraw_eq written' rfl input
    rw [if_pos fits] at redraw
    exact ⟨_,redraw,fun line => isFoundIn_encodeChars_iff whole⟩
  · intro input big
    obtain ⟨_,refusal,-,refuses,redraw⟩ := redraw_eq written' rfl input
    rw [if_neg big] at redraw
    exact ⟨refusal,redraw,refuses⟩

/-- A template that is literal text makes a prompt if the text is not too long. -/
theorem exists_ofTemplate_iff {template : String} {context : Option String}
    (written : Written (fillTemplate template context).toList text) :
    (∃ p, ofTemplate template context = .ok p) ↔ Fits (Utf8.encodeChars text) := by
  constructor
  · rintro ⟨p,made⟩
    obtain ⟨stream,-,streams,-⟩ := ofTemplate_eq_ok.mp made
    exact (part_spells streams written).2.2
  · intro fits
    have shorter : (Utf8.encodeChars (Text.trimStartChars text)).length ≤ (Utf8.encodeChars text).length := by
      obtain ⟨blank,whole⟩ := List.dropWhile_suffix Text.isBlank (l:=text)
      conv_rhs => rw [← whole,Utf8.encodeChars_append,List.length_append]
      exact Nat.le_add_left _ _
    obtain ⟨stream,-,streams⟩ := compile_written false written
    obtain ⟨lineStart,-,starts⟩ := compile_written false (written_trimLeading written)
    rw [if_pos fits] at streams
    rw [if_pos (fits.of_length_le shorter)] at starts
    exact ⟨_,ofTemplate_eq_ok.mpr ⟨_,_,compilePart_eq_ok.mpr streams,compilePart_eq_ok.mpr starts,rfl⟩⟩

/-- In a template of literal text around the placeholder, the name of the context is taken literally, and so
    is an input after the prompt: a prompt is refused only for its length, and its patterns look for the
    text before, the name and the text after. -/
theorem ofTemplate_literal (before after context : String)
    (plain : ∀ c ∈ before.toList ++ after.toList, c ∉ metaCharacters) :
    let template := before ++ contextPlaceholder ++ after
    let text := before.toList ++ (context.toList ++ after.toList)
    ((∃ p, ofTemplate template (some context) = .ok p) ↔ Fits (Utf8.encodeChars text)) ∧
      ∀ p, ofTemplate template (some context) = .ok p → p.LooksFor text := by
  intro template text
  have written := written_between plain context
  exact ⟨exists_ofTemplate_iff written,fun p made => looksFor_of_written made written⟩

/-- A context and an input full of signs that have a meaning in patterns. -/
theorem ofTemplate_literal_signs : (∀ c ∈ " \nfake:".toList ++ "> ".toList, c ∉ metaCharacters) ∧
    ∃ p, ofTemplate (" \nfake:" ++ contextPlaceholder ++ "> ") (some "k.s*\x7bcontext\x7d") = .ok p ∧
      p.LooksFor " \nfake:k.s*\x7bcontext\x7d> ".toList := by
  have all : (" \nfake:".toList ++ "> ".toList).all (!metaCharacters.contains ·) = true := by decide
  have plain : ∀ c ∈ " \nfake:".toList ++ "> ".toList, c ∉ metaCharacters := fun c member => by
    simpa using List.all_eq_true.mp all c member
  obtain ⟨made,looks⟩ := ofTemplate_literal " \nfake:" "> " "k.s*\x7bcontext\x7d" plain
  obtain ⟨p,is⟩ := made.mpr (by decide)
  exact ⟨plain,p,is,looks p is⟩

end TabCompletion.Prompt
