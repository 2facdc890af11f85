import TabCompletion.Proofs.Candidates
import TabCompletion.Proofs.Matching.Verdicts

/-!
# Lines and tokens

The same candidates are compared as lines in order or as a set of tokens. Both views are of one list
(`ofLines_offers`), so what passes as lines passes as tokens, and more printed lines only add to both.
-/
namespace TabCompletion

variable {printed more others : List String} {expected : Expectation}

/-- What is asked for may be among others. -/
inductive Expectation.Tolerates : Expectation → Prop where
  | choices (tokens : TokenSet) : Tolerates (.choices tokens true)
  | lines (lines : List String) : Tolerates (.lines lines true)

/-- The two views of printed lines agree. -/
structure GranularitiesAgree (printed : List String) : Prop where
  tokensOfLines : ∀ lines othersOk, evaluate (.ofLines printed) (.lines lines othersOk) = .pass →
    evaluate (.ofLines printed) (.choices (tokensOf lines) othersOk) = .pass
  tolerantTokens : ∀ tokens, evaluate (.ofLines printed) (.choices tokens false) = .pass →
    evaluate (.ofLines printed) (.choices tokens true) = .pass
  tolerantLines : ∀ lines, evaluate (.ofLines printed) (.lines lines false) = .pass →
    evaluate (.ofLines printed) (.lines lines true) = .pass
  noChoices : evaluate (.ofLines printed) .noChoices = .pass ↔ CompletionResult.ofLines printed = .empty
  noTokens : evaluate (.ofLines printed) (.choices .empty false) = .pass ↔ CompletionResult.ofLines printed = .empty
  noLines : evaluate (.ofLines printed) (.lines [] false) = .pass ↔ CompletionResult.ofLines printed = .empty
  /-- More lines take nothing away from what may be among others. -/
  inserted : ∀ more, printed.Sublist more → ∀ expected : Expectation, expected.Tolerates →
    evaluate (.ofLines printed) expected = .pass → evaluate (.ofLines more) expected = .pass
  again : ∃ lines, (CompletionResult.ofLines printed).lines? = some lines ∧
    CompletionResult.ofLines lines = CompletionResult.ofLines printed
  /-- The tokens do not depend on the order of the lines, nor on how often each is printed. -/
  sameTokens : ∀ others, (∀ line, line ∈ others ↔ line ∈ printed) →
    ∃ tokens, (CompletionResult.ofLines others).tokens? = some tokens ∧ (CompletionResult.ofLines printed).tokens? = some tokens

theorem tokensOf_nil : tokensOf [] = .empty := rfl

theorem ofLines_offers (printed : List String) :
    (CompletionResult.ofLines printed).Offers (tokensOf (keptLines printed)) (keptLines printed) := by
  by_cases empty : keptLines printed = []
  · rw [CompletionResult.ofLines_eq_empty empty,empty,tokensOf_nil]
    exact .empty
  · rw [CompletionResult.ofLines_eq_listed empty]
    exact .listed _ _

theorem tokensOf_eq_empty_iff : tokensOf (keptLines printed) = .empty ↔ keptLines printed = [] := by
  constructor
  · intro empty
    by_contra nonempty
    obtain ⟨word,token⟩ := exists_token nonempty
    rw [empty] at token
    exact TokenSet.not_mem_empty token
  · intro empty
    rw [empty,tokensOf_nil]

theorem tokensOf_subset {lines : List String} (among : ∀ line ∈ lines, line ∈ more) {word : String}
    (token : word ∈ tokensOf lines) : word ∈ tokensOf more := by
  rw [tokensOf,TokenSet.mem_ofList,List.mem_flatMap] at token ⊢
  obtain ⟨line,member,inside⟩ := token
  exact ⟨line,among line member,inside⟩

/-- What passes as lines passes as their tokens. -/
theorem passes_tokensOf (lines : List String) (othersOk : Bool)
    (passes : evaluate (.ofLines printed) (.lines lines othersOk) = .pass) :
    evaluate (.ofLines printed) (.choices (tokensOf lines) othersOk) = .pass := by
  have offers := ofLines_offers printed
  rw [evaluate_eq_pass] at passes ⊢
  cases othersOk with
  | false =>
    have same : keptLines printed = lines := (meets_lines_exact offers).mp passes
    exact (meets_choices_exact offers).mpr (congrArg tokensOf same)
  | true =>
    have among : ∀ line ∈ lines, line ∈ keptLines printed := (meets_lines_tolerant offers).mp passes
    exact (meets_choices_tolerant offers).mpr fun x => tokensOf_subset among

/-- No candidates are asked for in three ways, and each is met by the same results. -/
theorem noChoices_pass_iff : evaluate (.ofLines printed) .noChoices = .pass ↔ CompletionResult.ofLines printed = .empty := by
  rw [evaluate_eq_pass,meets_noChoices (ofLines_offers printed),CompletionResult.ofLines_eq_empty_iff,← tokensOf_eq_empty_iff]
  constructor
  · intro absent
    exact TokenSet.eq_of_mem_iff fun x => iff_of_false (absent x) TokenSet.not_mem_empty
  · intro empty x
    rw [empty]
    exact TokenSet.not_mem_empty

theorem noLines_pass_iff : evaluate (.ofLines printed) (.lines [] false) = .pass ↔ CompletionResult.ofLines printed = .empty := by
  rw [evaluate_eq_pass,meets_lines_exact (ofLines_offers printed),CompletionResult.ofLines_eq_empty_iff]

theorem passes_of_sublist (fewer : printed.Sublist more) (tolerates : expected.Tolerates)
    (passes : evaluate (.ofLines printed) expected = .pass) : evaluate (.ofLines more) expected = .pass := by
  have kept : ∀ line ∈ keptLines printed, line ∈ keptLines more := fun line member => (keptLines_sublist fewer).subset member
  rw [evaluate_eq_pass] at passes ⊢
  cases tolerates with
  | choices tokens =>
    have among := (meets_choices_tolerant (ofLines_offers printed)).mp passes
    exact (meets_choices_tolerant (ofLines_offers more)).mpr fun x member => tokensOf_subset kept (among x member)
  | lines lines =>
    have among := (meets_lines_tolerant (ofLines_offers printed)).mp passes
    exact (meets_lines_tolerant (ofLines_offers more)).mpr fun line member => kept line (among line member)

theorem tokensOf_keptLines_congr (same : ∀ line, line ∈ others ↔ line ∈ printed) :
    tokensOf (keptLines others) = tokensOf (keptLines printed) := by
  refine TokenSet.eq_of_mem_iff fun word => ?_
  rw [mem_tokensOf_keptLines,mem_tokensOf_keptLines]
  exact exists_congr fun line => and_congr_left' (same line)

/-- Lines and tokens agree on every list of printed lines. -/
theorem granularities_agree (printed : List String) :
    GranularitiesAgree printed ∧ ∀ observed, evaluate observed .noChoices = evaluate observed (.choices .empty false) := by
  have offers := ofLines_offers printed
  refine ⟨{
      tokensOfLines := passes_tokensOf
      tolerantTokens := ?_
      tolerantLines := ?_
      noChoices := noChoices_pass_iff
      noTokens := noChoices_pass_iff
      noLines := noLines_pass_iff
      inserted := fun more fewer _ => passes_of_sublist fewer
      again := ⟨keptLines printed,offers.lines?_eq,CompletionResult.ofLines_keptLines printed⟩
      sameTokens := ?_ },fun observed => rfl⟩
  · intro tokens
    rw [evaluate_eq_pass,evaluate_eq_pass,meets_choices_exact offers,meets_choices_tolerant offers]
    rintro rfl x member
    exact member
  · intro lines
    rw [evaluate_eq_pass,evaluate_eq_pass,meets_lines_exact offers,meets_lines_tolerant offers]
    rintro rfl line member
    exact member
  · intro others same
    refine ⟨tokensOf (keptLines printed),?_,offers.tokens?_eq⟩
    rw [(ofLines_offers others).tokens?_eq,tokensOf_keptLines_congr same]

end TabCompletion
