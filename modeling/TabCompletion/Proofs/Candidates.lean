import TabCompletion.Completion
import TabCompletion.Proofs.Text.Words

/-!
# Lists of candidates

A list that is made from printed lines offers the lines that are not blank without the blanks at their
ends (`keptLines`), and the words of all printed lines (`mem_tokensOf_keptLines`). There are none exactly
if every line is blank.
-/
namespace TabCompletion

variable {printed : List String} {line word : String}

/-- The lines that are not blank, without the blanks at their ends. -/
def keptLines (printed : List String) : List String := (printed.map Text.trim).filter (!·.isEmpty)

theorem keptLines_eq (printed : List String) :
    keptLines printed = (printed.filter fun line => !Text.isBlankText line).map Text.trim := by
  rw [keptLines,List.filter_map]
  refine congrArg (List.map Text.trim) (List.filter_congr fun line _ => ?_)
  rw [Function.comp_apply,Bool.not_inj_iff]
  rw [Bool.eq_iff_iff,← Text.trim_eq_empty_iff]
  exact String.isEmpty_iff

theorem mem_keptLines :
    line ∈ keptLines printed ↔ ∃ whole ∈ printed, Text.isBlankText whole = false ∧ Text.trim whole = line := by
  rw [keptLines_eq,List.mem_map]
  simp only [List.mem_filter,Bool.not_eq_true',and_assoc]

theorem keptLines_eq_nil_iff : keptLines printed = [] ↔ ∀ line ∈ printed, Text.isBlankText line = true := by
  rw [keptLines_eq,List.map_eq_nil_iff,List.filter_eq_nil_iff]
  simp only [Bool.not_eq_true',Bool.not_eq_false]

/-- Lines that were kept are kept as they are. -/
theorem keptLines_keptLines (printed : List String) : keptLines (keptLines printed) = keptLines printed := by
  have trimmed : (keptLines printed).map Text.trim = keptLines printed := by
    rw [List.map_congr_left (g:=id),List.map_id]
    intro line member
    obtain ⟨whole,-,-,rfl⟩ := mem_keptLines.mp member
    exact Text.trim_trim whole
  rw [keptLines,trimmed,keptLines,List.filter_filter]
  simp only [Bool.and_self]

theorem keptLines_sublist {more : List String} (fewer : printed.Sublist more) : (keptLines printed).Sublist (keptLines more) :=
  (fewer.map Text.trim).filter _

/-- The tokens are the words of all printed lines. -/
theorem mem_tokensOf_keptLines : word ∈ tokensOf (keptLines printed) ↔ ∃ line ∈ printed, word ∈ Text.words line := by
  rw [tokensOf,TokenSet.mem_ofList,List.mem_flatMap]
  constructor
  · rintro ⟨line,member,inside⟩
    obtain ⟨whole,among,-,rfl⟩ := mem_keptLines.mp member
    exact ⟨whole,among,Text.words_trim whole ▸ inside⟩
  · rintro ⟨line,among,inside⟩
    refine ⟨Text.trim line,mem_keptLines.mpr ⟨line,among,?_,rfl⟩,(Text.words_trim line).symm ▸ inside⟩
    rw [Bool.eq_false_iff]
    intro blank
    rw [Text.words_eq_nil blank] at inside
    cases inside

/-- A printed line that is not blank is a token at least. -/
theorem exists_token (nonempty : keptLines printed ≠ []) : ∃ word, word ∈ tokensOf (keptLines printed) := by
  obtain ⟨line,member⟩ := List.exists_mem_of_ne_nil _ nonempty
  obtain ⟨whole,among,nonblank,-⟩ := mem_keptLines.mp member
  obtain ⟨word,inside⟩ := List.exists_mem_of_ne_nil _ (Text.words_ne_nil (Bool.eq_false_iff.mp nonblank))
  exact ⟨word,mem_tokensOf_keptLines.mpr ⟨whole,among,inside⟩⟩

namespace CompletionResult

theorem ofLines_eq_empty (empty : keptLines printed = []) : ofLines printed = .empty := by
  show (if (keptLines printed).isEmpty then _ else _) = _
  rw [empty]
  rfl

theorem ofLines_eq_listed (nonempty : keptLines printed ≠ []) :
    ofLines printed = .listed (tokensOf (keptLines printed)) (keptLines printed) :=
  if_neg fun empty => nonempty (List.isEmpty_iff.mp empty)

theorem ofLines_eq_empty_iff : ofLines printed = .empty ↔ keptLines printed = [] := by
  refine ⟨fun empty => ?_,ofLines_eq_empty⟩
  by_contra nonempty
  rw [ofLines_eq_listed nonempty] at empty
  cases empty

/-- The lines of a list are made into the same list again. -/
theorem ofLines_keptLines (printed : List String) : ofLines (keptLines printed) = ofLines printed := by
  by_cases empty : keptLines printed = []
  · rw [empty,ofLines_eq_empty empty]
    rfl
  · have nonempty : keptLines (keptLines printed) ≠ [] := by rwa [keptLines_keptLines]
    rw [ofLines_eq_listed nonempty,ofLines_eq_listed empty,keptLines_keptLines]

end CompletionResult
end TabCompletion
