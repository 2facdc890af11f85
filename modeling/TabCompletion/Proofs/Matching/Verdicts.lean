import TabCompletion.Matching
import TabCompletion.Proofs.Document.Grammar
import TabCompletion.Proofs.Text.Utf8
import Mathlib.Data.Set.Card

/-!
# Verdicts of the matcher

`Meets` says what each expectation asks of a result and `Explains` what a failed match must show of both
sides. Each of the three comparisons passes the results that meet it and explains the others
(`Judged`), so `evaluate` does (`evaluate_judged`).
-/
namespace TabCompletion

/-- Text was inserted. -/
def CompletionResult.IsText (observed : CompletionResult) : Prop := ∃ text, observed = .immediate text

/-- The tokens and lines that a result offers where no text was inserted. -/
inductive CompletionResult.Offers : CompletionResult → TokenSet → List String → Prop where
  | listed (tokens : TokenSet) (lines : List String) : Offers (.listed tokens lines) tokens lines
  | empty : Offers .empty .empty []

/-- Text is asked for. -/
def Expectation.IsText (expected : Expectation) : Prop := ∃ text, expected = .immediate text

/-- The tokens that are asked for, and whether others may be offered. -/
inductive Expectation.Asks : Expectation → TokenSet → Bool → Prop where
  | choices (tokens : TokenSet) (othersOk : Bool) : Asks (.choices tokens othersOk) tokens othersOk
  | noChoices : Asks .noChoices .empty false

/-- What an expectation asks of a result. -/
def Meets (observed : CompletionResult) : Expectation → Prop
  | .immediate text => observed = .immediate text
  | .choices tokens false => ∃ printed, observed.Offers tokens printed
  | .choices tokens true => ∃ offered printed, observed.Offers offered printed ∧ ∀ x ∈ tokens, x ∈ offered
  | .lines lines false => ∃ offered, observed.Offers offered lines
  | .lines lines true => ∃ offered printed, observed.Offers offered printed ∧ ∀ line ∈ lines, line ∈ printed
  | .noChoices => ∃ offered printed, observed.Offers offered printed ∧ ∀ x, x ∉ offered

/-- What the detail of a failed match shows. -/
inductive Explains (observed : CompletionResult) : Expectation → MismatchDetail → Prop where
  | wrongKind {expected : Expectation} (wanted : String) (mixed : ¬(observed.IsText ↔ expected.IsText)) :
    Explains observed expected (.wrongKind wanted observed)
  | texts {text : String} (expected : String) (inserted : observed = .immediate text) :
    Explains observed (.immediate expected)
      (.immediate text (Utf8.encode text).length expected (Utf8.encode expected).length)
  | tokens {expected : Expectation} {wanted offered missing unexpected : TokenSet} {othersOk : Bool} {printed : List String}
    (asks : expected.Asks wanted othersOk) (offers : observed.Offers offered printed)
    (lacks : ∀ x, x ∈ missing ↔ x ∈ wanted ∧ x ∉ offered)
    (exceeds : ∀ x, x ∈ unexpected ↔ othersOk = false ∧ x ∈ offered ∧ x ∉ wanted)
    (differs : ∃ x, x ∈ missing ∨ x ∈ unexpected) :
    Explains observed expected
      (.tokens {x | x ∈ offered}.ncard {x | x ∈ wanted}.ncard missing unexpected offered wanted)
  | lines {offered : TokenSet} {printed : List String} (wanted : List String) (othersOk : Bool)
    (offers : observed.Offers offered printed) :
    Explains observed (.lines wanted othersOk) (.lines printed.length wanted.length printed wanted)

/-- An outcome is a pass where the result meets what is asked, and else a mismatch that explains it. -/
def Judged (observed : CompletionResult) (expected : Expectation) : MatchOutcome → Prop
  | .pass => Meets observed expected
  | .fail m => ¬Meets observed expected ∧ Explains observed expected m.detail

namespace TokenSet

/-- The size of a set is the number of its elements. -/
theorem size_eq_ncard (s : TokenSet) : s.size = {x | x ∈ s}.ncard := by
  have elements : {x | x ∈ s} = (s.toList.toFinset : Set String) := by
    ext x
    simp
  rw [elements,Set.ncard_coe_finset,List.toFinset_card_of_nodup s.nodup_toList]
  rfl

theorem isEmpty_iff {s : TokenSet} : s.isEmpty = true ↔ ∀ x, x ∉ s := by
  rw [isEmpty,List.isEmpty_iff,List.eq_nil_iff_forall_not_mem]
  rfl

end TokenSet

/-! ## The comparisons -/

variable {observed : CompletionResult} {expected : Expectation} {tokens wanted : TokenSet} {lines : List String}
  {othersOk : Bool}

theorem CompletionResult.Offers.tokens?_eq (offers : observed.Offers tokens lines) : observed.tokens? = some tokens := by
  cases offers <;> rfl

theorem CompletionResult.Offers.lines?_eq (offers : observed.Offers tokens lines) : observed.lines? = some lines := by
  cases offers <;> rfl

theorem CompletionResult.Offers.not_isText (offers : observed.Offers tokens lines) : ¬observed.IsText := by
  rintro ⟨text,rfl⟩
  cases offers

theorem CompletionResult.Offers.unique {tokens' : TokenSet} {lines' : List String}
    (offers : observed.Offers tokens lines) (again : observed.Offers tokens' lines') : tokens' = tokens ∧ lines' = lines := by
  cases offers <;> cases again <;> exact ⟨rfl,rfl⟩

/-- Text was inserted, or something is offered. -/
theorem CompletionResult.isText_or_offers (observed : CompletionResult) :
    observed.IsText ∨ ∃ tokens lines, observed.Offers tokens lines := by
  cases observed with
  | immediate text => exact .inl ⟨text,rfl⟩
  | listed tokens lines => exact .inr ⟨tokens,lines,.listed tokens lines⟩
  | empty => exact .inr ⟨.empty,[],.empty⟩

theorem Expectation.Asks.not_isText (asks : expected.Asks wanted othersOk) : ¬expected.IsText := by
  rintro ⟨text,rfl⟩
  cases asks

section Offers

variable (offers : observed.Offers tokens lines)
include offers

theorem meets_choices_exact : Meets observed (.choices wanted false) ↔ tokens = wanted := by
  constructor
  · rintro ⟨printed,same⟩
    exact (offers.unique same).1.symm
  · rintro rfl
    exact ⟨lines,offers⟩

theorem meets_choices_tolerant : Meets observed (.choices wanted true) ↔ ∀ x ∈ wanted, x ∈ tokens := by
  constructor
  · rintro ⟨offered,printed,same,all⟩
    obtain ⟨rfl,-⟩ := offers.unique same
    exact all
  · intro all
    exact ⟨tokens,lines,offers,all⟩

theorem meets_noChoices : Meets observed .noChoices ↔ ∀ x, x ∉ tokens := by
  constructor
  · rintro ⟨offered,printed,same,absent⟩
    obtain ⟨rfl,-⟩ := offers.unique same
    exact absent
  · intro absent
    exact ⟨tokens,lines,offers,absent⟩

theorem meets_lines_exact {wanted : List String} : Meets observed (.lines wanted false) ↔ lines = wanted := by
  constructor
  · rintro ⟨offered,same⟩
    exact (offers.unique same).2.symm
  · rintro rfl
    exact ⟨tokens,offers⟩

theorem meets_lines_tolerant {wanted : List String} :
    Meets observed (.lines wanted true) ↔ ∀ line ∈ wanted, line ∈ lines := by
  constructor
  · rintro ⟨offered,printed,same,all⟩
    obtain ⟨-,rfl⟩ := offers.unique same
    exact all
  · intro all
    exact ⟨tokens,lines,offers,all⟩

/-- Tokens are met by a list that has them, and no others unless they are tolerated. -/
theorem meets_iff_of_asks (asks : expected.Asks wanted othersOk) :
    Meets observed expected ↔ (∀ x ∈ wanted, x ∈ tokens) ∧ (othersOk = false → ∀ x ∈ tokens, x ∈ wanted) := by
  cases asks with
  | choices _ othersOk =>
    cases othersOk with
    | false =>
      rw [meets_choices_exact offers]
      constructor
      · rintro rfl
        exact ⟨fun x member => member,fun _ x member => member⟩
      · rintro ⟨all,only⟩
        exact TokenSet.eq_of_mem_iff fun x => ⟨only rfl x,all x⟩
    | true =>
      rw [meets_choices_tolerant offers]
      exact ⟨fun all => ⟨all,fun tolerated => by cases tolerated⟩,And.left⟩
  | noChoices =>
    rw [meets_noChoices offers]
    constructor
    · intro absent
      exact ⟨fun x member => absurd member TokenSet.not_mem_empty,fun _ x member => absurd member (absent x)⟩
    · rintro ⟨-,only⟩ x member
      exact TokenSet.not_mem_empty (only rfl x member)

end Offers

/-- What is met where no text is asked for is met by a list. -/
theorem Meets.offers (meets : Meets observed expected) (noText : ¬expected.IsText) :
    ∃ tokens lines, observed.Offers tokens lines := by
  cases expected with
  | immediate text => exact absurd ⟨text,rfl⟩ noText
  | choices tokens othersOk =>
    cases othersOk with
    | false => exact ⟨tokens,meets⟩
    | true => exact meets.imp fun offered => Exists.imp fun printed => And.left
  | lines lines othersOk =>
    cases othersOk with
    | false => exact meets.imp fun offered offers => ⟨lines,offers⟩
    | true => exact meets.imp fun offered => Exists.imp fun printed => And.left
  | noChoices => exact meets.imp fun offered => Exists.imp fun printed => And.left

/-- Only text meets what asks for text, and only a list meets anything else. -/
theorem Meets.sameKind (meets : Meets observed expected) : observed.IsText ↔ expected.IsText := by
  by_cases asked : expected.IsText
  · obtain ⟨text,rfl⟩ := asked
    exact iff_of_true ⟨text,meets⟩ ⟨text,rfl⟩
  · obtain ⟨tokens,lines,offers⟩ := meets.offers asked
    exact iff_of_false offers.not_isText asked

/-- A mismatch of kinds is explained by the result. -/
theorem judged_wrongKind (said : String) (mixed : ¬(observed.IsText ↔ expected.IsText)) :
    Judged observed expected (Matching.wrongKind observed said) :=
  ⟨fun meets => mixed meets.sameKind,.wrongKind said mixed⟩

theorem judged_immediate (observed : CompletionResult) (text : String) :
    Judged observed (.immediate text) (Matching.immediate observed text) := by
  rcases observed.isText_or_offers with ⟨inserted,rfl⟩ | ⟨tokens,lines,offers⟩
  · rw [Matching.immediate]
    dsimp only [CompletionResult.immediateText?]
    by_cases same : inserted = text
    · rw [if_pos same]
      exact congrArg _ same
    · rw [if_neg same,← Utf8.length_encode,← Utf8.length_encode]
      exact ⟨fun met => same (CompletionResult.immediate.inj met),.texts text rfl⟩
  · have noText : observed.immediateText? = none := by cases offers <;> rfl
    rw [Matching.immediate,noText]
    exact judged_wrongKind _ fun same => offers.not_isText (same.mpr ⟨text,rfl⟩)

theorem judged_tokens (observed : CompletionResult) (asks : expected.Asks wanted othersOk) :
    Judged observed expected (Matching.tokens observed wanted othersOk) := by
  rcases observed.isText_or_offers with ⟨inserted,rfl⟩ | ⟨tokens,lines,offers⟩
  · exact judged_wrongKind _ fun same => asks.not_isText (same.mp ⟨inserted,rfl⟩)
  rw [Matching.tokens,offers.tokens?_eq]
  dsimp only
  have lacks : ∀ x, x ∈ wanted.diff tokens ↔ x ∈ wanted ∧ x ∉ tokens := fun x => TokenSet.mem_diff
  have exceeds : ∀ x, x ∈ (if othersOk then TokenSet.empty else tokens.diff wanted) ↔
      othersOk = false ∧ x ∈ tokens ∧ x ∉ wanted := by
    cases othersOk <;> simp
  generalize wanted.diff tokens = missing at lacks
  generalize (if othersOk then TokenSet.empty else tokens.diff wanted) = unexpected at exceeds
  have meets : Meets observed expected ↔ (missing.isEmpty && unexpected.isEmpty) = true := by
    rw [meets_iff_of_asks offers asks,Bool.and_eq_true,TokenSet.isEmpty_iff,TokenSet.isEmpty_iff]
    refine and_congr (forall_congr' fun x => ?_) ?_
    · rw [lacks,not_and_not_right]
    · simp only [exceeds,not_and,not_not]
      exact ⟨fun only x tolerated => only tolerated x,fun only tolerated x => only x tolerated⟩
  by_cases met : Meets observed expected
  · rw [if_pos (meets.mp met)]
    exact met
  · rw [if_neg fun agrees => met (meets.mpr agrees),TokenSet.size_eq_ncard,TokenSet.size_eq_ncard]
    refine ⟨met,.tokens asks offers lacks exceeds ?_⟩
    by_contra neither
    push Not at neither
    refine met (meets.mpr (Bool.and_eq_true_iff.mpr ⟨?_,?_⟩))
    · exact TokenSet.isEmpty_iff.mpr fun x => (neither x).1
    · exact TokenSet.isEmpty_iff.mpr fun x => (neither x).2

theorem judged_lines (observed : CompletionResult) (wanted : List String) (othersOk : Bool) :
    Judged observed (.lines wanted othersOk) (Matching.lines observed wanted othersOk) := by
  rcases observed.isText_or_offers with ⟨inserted,rfl⟩ | ⟨tokens,printed,offers⟩
  · exact judged_wrongKind _ fun same => by
      obtain ⟨text,other⟩ := same.mp ⟨inserted,rfl⟩
      cases other
  have meets : Meets observed (.lines wanted othersOk) ↔
      (if othersOk then wanted.all (printed.contains ·) else printed == wanted) = true := by
    cases othersOk with
    | false => rw [if_neg Bool.false_ne_true,beq_iff_eq,meets_lines_exact offers]
    | true =>
      rw [if_pos rfl,List.all_eq_true,meets_lines_tolerant offers]
      simp only [List.contains_iff_mem]
  rw [Matching.lines,offers.lines?_eq]
  dsimp only
  by_cases met : Meets observed (.lines wanted othersOk)
  · rw [if_pos (meets.mp met)]
    exact met
  · rw [if_neg fun same => met (meets.mpr same)]
    exact ⟨met,.lines wanted othersOk offers⟩

theorem evaluate_judged (observed : CompletionResult) (expected : Expectation) :
    Judged observed expected (evaluate observed expected) := by
  cases expected with
  | immediate text => exact judged_immediate observed text
  | choices tokens othersOk => exact judged_tokens observed (.choices tokens othersOk)
  | lines lines othersOk => exact judged_lines observed lines othersOk
  | noChoices => exact judged_tokens observed .noChoices

theorem evaluate_eq_pass : evaluate observed expected = .pass ↔ Meets observed expected := by
  have judged := evaluate_judged observed expected
  cases outcome : evaluate observed expected with
  | pass =>
    rw [outcome] at judged
    exact iff_of_true rfl judged
  | fail m =>
    rw [outcome] at judged
    exact iff_of_false (fun passes => by cases passes) judged.1

/-- The result itself is shown where only one of the two sides is text. -/
theorem Explains.wrongKind_iff {detail : MismatchDetail} (explains : Explains observed expected detail) :
    (∃ said, detail = .wrongKind said observed) ↔ ¬(observed.IsText ↔ expected.IsText) := by
  cases explains with
  | wrongKind said mixed => exact iff_of_true ⟨said,rfl⟩ mixed
  | texts text inserted =>
    refine iff_of_false (fun ⟨said,same⟩ => by cases same) (not_not.mpr ?_)
    exact iff_of_true ⟨_,inserted⟩ ⟨text,rfl⟩
  | tokens asks offers =>
    refine iff_of_false (fun ⟨said,same⟩ => by cases same) (not_not.mpr ?_)
    exact iff_of_false offers.not_isText asks.not_isText
  | lines wanted othersOk offers =>
    refine iff_of_false (fun ⟨said,same⟩ => by cases same) (not_not.mpr ?_)
    exact iff_of_false offers.not_isText fun ⟨text,same⟩ => by cases same

/-- The matcher passes exactly what meets the expectation. A failure carries both sides as they are and
    what is between them, or the whole result where only one of the two is text. -/
theorem matching_exact (observed : CompletionResult) (expected : Expectation) :
    (evaluate observed expected = .pass ↔ Meets observed expected) ∧
      ∀ m, evaluate observed expected = .fail m →
        Explains observed expected m.detail ∧
          ((∃ wanted, m.detail = .wrongKind wanted observed) ↔ ¬(observed.IsText ↔ expected.IsText)) := by
  refine ⟨evaluate_eq_pass,fun m fails => ?_⟩
  have judged := evaluate_judged observed expected
  rw [fails] at judged
  exact ⟨judged.2,judged.2.wrongKind_iff⟩

end TabCompletion
