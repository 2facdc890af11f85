import TabCompletion.Proofs.Pattern.Matches
import TabCompletion.Proofs.Pattern.Occurrences
import TabCompletion.Proofs.Prompt
import TabCompletion.Proofs.Transport.Awaiting

/-!
# Waits for prompts that are literal text

How the output of a shell is cut into replies does not matter to a wait for such a prompt. It ends just
after the first place of the text in all of the output, and leaves the rest for later; where the text does
not occur, it takes every reply and keeps all bytes (`readUntilMatch_literal`).
-/
namespace TabCompletion.Scripted

open Pattern

variable {p : Pattern} {word : Bytes} {cut : List Bytes} {timeout : Nat} {s : Scripted} {received : Bytes}

/-- The replies that print pieces of output, one each. -/
def printed (cut : List Bytes) : List Reply := cut.map .output

theorem allBytes_printed (cut : List Bytes) : allBytes (printed cut) = cut.flatten := by
  induction cut with
  | nil => rfl
  | cons bytes rest ih => exact congrArg (bytes ++ ·) ih

/-- What a wait in output of which every reply was taken and put together says of the word. -/
theorem unmatched_printed (spells : p.expr.Spells word) (begins : Begins p.text word)
    (unmatched : Unmatched p received (printed cut)) : ¬word <:+: received ++ cut.flatten := by
  have unfound := unmatched (printed cut) (List.prefix_refl _)
  rw [allBytes_printed] at unfound
  exact (splitAfter?_eq_none_iff spells begins).mp unfound

/-- Replies that are taken from printed output are printed output, and so are the others. -/
theorem printed_eq_append {taken rest : List Reply} (script : printed cut = taken ++ rest) :
    ∃ first left, cut = first ++ left ∧ taken = printed first ∧ rest = printed left := by
  obtain ⟨first,left,whole,firsts,lefts⟩ := List.map_eq_append_iff.mp script
  exact ⟨first,left,whole,firsts.symm,lefts.symm⟩

/-- How a wait for a word in printed output ends: after the first place of the word, or with all bytes
    pending if there is none. -/
inductive AwaitedIn (p : Pattern) (word : Bytes) (timeout : Nat) (s : Scripted) (all : Bytes) :
    HarnessResult Bytes × Scripted → Prop where
  | found (left : List Bytes) {upTo after : Bytes} (through : ShortestThrough word all upTo)
      (whole : upTo ++ (after ++ left.flatten) = all) :
      AwaitedIn p word timeout s all (.ok upTo, { s with pending := after, replies := printed left })
  | absent (nowhere : ¬word <:+: all) :
      AwaitedIn p word timeout s all
        (.error (Transport.noPromptInTime p timeout all), { s with pending := all, replies := [] })

theorem awaitMatch_printed (spells : p.expr.Spells word) (begins : Begins p.text word) (timeout : Nat) (s : Scripted)
    (received : Bytes) (cut : List Bytes) :
    AwaitedIn p word timeout s (received ++ cut.flatten) (s.awaitMatch p timeout received (printed cut)) := by
  have awaited := awaitMatch_awaited p timeout s received (printed cut)
  -- The replies in the relation are a free index, so that its cases may name the parts of them.
  generalize script : printed cut = replies at awaited
  generalize s.awaitMatch p timeout received replies = outcome at awaited ⊢
  cases awaited with
  | found taken rest outputs first split =>
    obtain ⟨first,left,rfl,rfl,rfl⟩ := printed_eq_append script
    rw [allBytes_printed] at split
    have whole := append_of_splitAfter? split
    refine .found left ?_ ?_
    · rw [List.flatten_append,← List.append_assoc]
      exact shortestThrough_of_split spells begins split left.flatten
    · rw [List.flatten_append,← List.append_assoc,whole,List.append_assoc]
  | closed taken rest outputs unmatched =>
    obtain ⟨first,left,-,-,others⟩ := printed_eq_append script
    cases left <;> cases others
  | silent taken rest outputs unmatched =>
    obtain ⟨first,left,-,-,others⟩ := printed_eq_append script
    cases left <;> cases others
  | exhausted _ outputs unmatched =>
    subst script
    rw [allBytes_printed]
    exact .absent (unmatched_printed spells begins unmatched)

/-- However the output is cut into replies, a wait for a prompt that is literal text gives the same: where
    the text occurs in what is pending and printed, it returns the shortest start of it that ends with the
    text and leaves all the rest; where it does not occur, it runs out of time, has taken every reply and
    keeps all bytes pending. -/
theorem readUntilMatch_literal {template : String} {context : Option String} {prompt : Prompt} {text : List Char}
    (made : Prompt.ofTemplate template context = .ok prompt)
    (written : Written (Prompt.fillTemplate template context).toList text) (timeout : Nat) (s : Scripted)
    (cut : List Bytes) (script : s.replies = cut.map .output) :
    let word := Utf8.encodeChars text
    let all := s.pending ++ cut.flatten
    (word <:+: all → ∃ (upTo after : Bytes) (left : List Bytes),
      (Transport.readUntilMatch prompt.stream timeout).run s =
          (.ok upTo, { s with pending := after, replies := left.map .output }) ∧
        ShortestThrough word all upTo ∧ upTo ++ (after ++ left.flatten) = all) ∧
    (¬word <:+: all →
      (Transport.readUntilMatch prompt.stream timeout).run s =
        (.error (Transport.noPromptInTime prompt.stream timeout all), { s with pending := all, replies := [] })) := by
  intro word all
  obtain ⟨stream,lineStart,streams,-,rfl⟩ := Prompt.ofTemplate_eq_ok.mp made
  obtain ⟨-,spells,-⟩ := Prompt.part_spells streams written
  obtain ⟨_,_,-,-,-,rfl⟩ := compile_eq_ok.mp (Prompt.compilePart_eq_ok.mp streams)
  have awaited := awaitMatch_printed spells nofun timeout s s.pending cut
  unfold printed at awaited
  rw [← script] at awaited
  rw [run_readUntilMatch]
  generalize s.awaitMatch _ timeout s.pending s.replies = outcome at awaited ⊢
  constructor
  · intro occurs
    cases awaited with
    | found left through whole => exact ⟨_,_,left,rfl,through,whole⟩
    | absent nowhere => exact absurd occurs nowhere
  · intro nowhere
    cases awaited with
    | found left through whole => exact absurd (through.through.isInfix.trans through.inside.isInfix) nowhere
    | absent _ => rfl

/-- Two prompts of the fixture shell, cut into four replies of which one is empty. -/
def cutPrompts : List Bytes :=
  [Utf8.encode "\nfake",[],Utf8.encode ":k.s> \nfa",Utf8.encode "ke:k.s> "]

theorem readUntilMatch_cutPrompts : ∃ prompt, Prompt.ofTemplate fixturePrompt (some "k.s") = .ok prompt ∧
    Written (Prompt.fillTemplate fixturePrompt (some "k.s")).toList "\nfake:k.s> ".toList ∧
    ∃ (upTo after : Bytes) (left : List Bytes),
      (Transport.readUntilMatch prompt.stream 1000).run
          ({ replies := cutPrompts.map .output, pending := Utf8.encode "^C\r" } : Scripted) =
        (.ok upTo, { replies := left.map .output, pending := after }) ∧
      ShortestThrough (Utf8.encode "\nfake:k.s> ") (Utf8.encode "^C\r" ++ cutPrompts.flatten) upTo ∧
      upTo ++ (after ++ left.flatten) = Utf8.encode "^C\r" ++ cutPrompts.flatten := by
  have fits : Fits (Utf8.encodeChars ('\n' :: Prompt.fixtureText "k.s")) := by decide
  obtain ⟨prompt,made⟩ := Prompt.ofTemplate_fixture.mpr fits
  have occurs : Utf8.encode "\nfake:k.s> " <:+: Utf8.encode "^C\r" ++ cutPrompts.flatten :=
    ⟨Utf8.encode "^C\r",Utf8.encode "\nfake:k.s> ",by decide⟩
  have written := Prompt.written_fixture_stream "k.s"
  exact ⟨prompt,made,written,(readUntilMatch_literal made written 1000
    { replies := cutPrompts.map .output, pending := Utf8.encode "^C\r" } cutPrompts rfl).1 occurs⟩

end TabCompletion.Scripted
