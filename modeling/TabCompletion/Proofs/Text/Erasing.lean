import TabCompletion.Proofs.Text.Words

/-!
# Erasing pieces of a text

`removeAll` takes the leftmost occurrence of a piece out and goes on after it. A piece of two different
elements overlaps itself nowhere, so what is erased from two lists in a row is what is erased from each
(`removeAll_pair_append_iff`), except for a pair that begins in the first list and ends in the second
(`removeAll_pair_across`).
-/
namespace TabCompletion.Text

variable {α : Type}

section Occurrence

variable [BEq α] {piece by' : List α}

theorem substituteFrom_skip (skipped rest : List α) :
    substituteFrom piece by' skipped.length (skipped ++ rest) = substituteFrom piece by' 0 rest := by
  induction skipped with
  | nil => rfl
  | cons a skipped ih => rw [List.length_cons,List.cons_append,substituteFrom,ih]

/-- Where something is put in, something is left. -/
theorem substitute_ne_nil {whole : List α} (something : by' ≠ []) (nonempty : whole ≠ []) :
    substitute piece by' whole ≠ [] := by
  obtain ⟨a,rest,rfl⟩ := List.exists_cons_of_ne_nil nonempty
  rw [substitute]
  split
  · exact nonempty
  rw [substituteFrom]
  split
  · exact List.append_ne_nil_of_left_ne_nil something _
  · exact List.cons_ne_nil a _

@[simp] theorem removeAll_nil : removeAll piece [] = [] := by
  unfold removeAll substitute
  split <;> rfl

/-- Elements that are not the first of the piece stay. -/
theorem substituteFrom_append [LawfulBEq α] {a : α} {before : List α} (absent : a ∉ before) (rest : List α) :
    substituteFrom (a :: piece) by' 0 (before ++ rest) = before ++ substituteFrom (a :: piece) by' 0 rest := by
  induction before with
  | nil => rfl
  | cons b before ih =>
    obtain ⟨differs,others⟩ := not_or.mp fun among => absent (List.mem_cons.mpr among)
    have notHere : ¬(a :: piece).isPrefixOf (b :: (before ++ rest)) = true := fun here =>
      differs (List.cons_prefix_cons.mp (List.isPrefixOf_iff_prefix.mp here)).1
    rw [List.cons_append,substituteFrom,if_neg notHere,ih others,List.cons_append]

/-- A piece that stands in a list once, and whose first element stands nowhere else, is replaced there. -/
theorem substitute_between [LawfulBEq α] {a : α} {before after : List α} (absent : a ∉ before) (absent' : a ∉ after) :
    substitute (a :: piece) by' (before ++ (a :: piece ++ after)) = before ++ (by' ++ after) := by
  have here : (a :: piece).isPrefixOf (a :: (piece ++ after)) = true := List.isPrefixOf_iff_prefix.mpr ⟨after,rfl⟩
  have unchanged : substituteFrom (a :: piece) by' 0 after = after := by
    have whole : substituteFrom (a :: piece) by' 0 (after ++ []) = after ++ substituteFrom (a :: piece) by' 0 [] :=
      substituteFrom_append absent' []
    rwa [substituteFrom,List.append_nil] at whole
  rw [substitute,if_neg (by simp),substituteFrom_append absent,List.cons_append,substituteFrom,if_pos here,
    List.length_cons,Nat.add_sub_cancel,substituteFrom_skip,unchanged]

end Occurrence

variable [BEq α] [LawfulBEq α] {piece : List α} {a x y : α}

theorem removeAll_append_piece (nonempty : piece ≠ []) (rest : List α) :
    removeAll piece (piece ++ rest) = removeAll piece rest := by
  obtain ⟨a,more,rfl⟩ := List.exists_cons_of_ne_nil nonempty
  have here : (a :: more).isPrefixOf (a :: (more ++ rest)) = true :=
    List.isPrefixOf_iff_prefix.mpr ⟨rest,rfl⟩
  simp only [removeAll,substitute,List.isEmpty_cons,Bool.false_eq_true,if_false]
  rw [List.cons_append,substituteFrom,if_pos here,List.nil_append]
  exact substituteFrom_skip more rest

/-- An element that begins no occurrence stays. -/
theorem removeAll_cons {rest : List α} (other : ¬piece <+: a :: rest) :
    removeAll piece (a :: rest) = a :: removeAll piece rest := by
  have nonempty : piece.isEmpty = false := by
    rw [Bool.eq_false_iff]
    intro empty
    rw [List.isEmpty_iff.mp empty] at other
    exact other List.nil_prefix
  have notHere : ¬piece.isPrefixOf (a :: rest) = true := fun here => other (List.isPrefixOf_iff_prefix.mp here)
  simp only [removeAll,substitute,nonempty,Bool.false_eq_true,if_false]
  rw [substituteFrom,if_neg notHere]

/-- Nothing is left just if there is nothing but the piece, some times in a row. -/
theorem removeAll_eq_nil (nonempty : piece ≠ []) {whole : List α} :
    removeAll piece whole = [] ↔ ∃ n, whole = (List.replicate n piece).flatten := by
  constructor
  · intro nothing
    induction size : whole.length using Nat.strong_induction_on generalizing whole with
    | _ bound ih =>
      cases whole with
      | nil => exact ⟨0,rfl⟩
      | cons a rest =>
        by_cases here : piece <+: a :: rest
        · obtain ⟨later,split⟩ := here
          have shorter : later.length < bound := by
            have positive := List.length_pos_iff.mpr nonempty
            rw [← size,← split,List.length_append]
            omega
          rw [← split,removeAll_append_piece nonempty] at nothing
          obtain ⟨n,is⟩ := ih later.length shorter nothing rfl
          exact ⟨n + 1,by rw [← split,is,List.replicate_succ,List.flatten_cons]⟩
        · rw [removeAll_cons here] at nothing
          cases nothing
  · rintro ⟨n,rfl⟩
    induction n with
    | zero => exact removeAll_nil
    | succ n ih => rw [List.replicate_succ,List.flatten_cons,removeAll_append_piece nonempty,ih]

theorem removeAll_pair (rest : List α) : removeAll [x,y] (x :: y :: rest) = removeAll [x,y] rest :=
  removeAll_append_piece (List.cons_ne_nil x [y]) rest

/-- What is erased from two lists in a row is what is erased from each, unless a pair begins in the first
    list and ends in the second. -/
theorem removeAll_pair_append : ∀ {front back : List α}, ¬([x] <:+ front ∧ [y] <+: back) →
    removeAll [x,y] (front ++ back) = removeAll [x,y] front ++ removeAll [x,y] back
  | [],back,_ => by rw [List.nil_append,removeAll_nil,List.nil_append]
  | [a],back,apart => by
    have other : ¬[x,y] <+: a :: back := by
      rintro here
      obtain ⟨rfl,begins⟩ := List.cons_prefix_cons.mp here
      exact apart ⟨List.suffix_refl _,begins⟩
    have alone : ¬[x,y] <+: [a] := by
      intro here
      simpa using here.length_le
    rw [List.singleton_append,removeAll_cons other,removeAll_cons alone,removeAll_nil,List.singleton_append]
  | a :: b :: more,back,apart => by
    -- A pair at the start is taken out of both sides; without one the first element stays on both sides.
    by_cases here : x = a ∧ y = b
    · obtain ⟨rfl,rfl⟩ := here
      have later : ¬([x] <:+ more ∧ [y] <+: back) := fun ⟨ends,begins⟩ =>
        apart ⟨ends.trans ((List.suffix_cons _ _).trans (List.suffix_cons _ _)),begins⟩
      rw [List.cons_append,List.cons_append,removeAll_pair,removeAll_pair,removeAll_pair_append later]
    · have later : ¬([x] <:+ b :: more ∧ [y] <+: back) := fun ⟨ends,begins⟩ =>
        apart ⟨ends.trans (List.suffix_cons _ _),begins⟩
      have other (rest : List α) : ¬[x,y] <+: a :: b :: rest := fun inside =>
        here ⟨(List.cons_prefix_cons.mp inside).1,(List.cons_prefix_cons.mp (List.cons_prefix_cons.mp inside).2).1⟩
      have rest := removeAll_pair_append later
      rw [List.cons_append] at rest
      rw [List.cons_append,List.cons_append,removeAll_cons (other _),removeAll_cons (other _),rest,List.cons_append]

/-- A pair that begins in one list and ends in the next is taken out of both. -/
theorem removeAll_pair_across (different : x ≠ y) (front back : List α) :
    removeAll [x,y] (front ++ [x] ++ y :: back) = removeAll [x,y] front ++ removeAll [x,y] back := by
  have apart : ¬([x] <:+ front ∧ [y] <+: x :: y :: back) := fun ⟨_,begins⟩ =>
    different (List.cons_prefix_cons.mp begins).1.symm
  rw [List.append_assoc,List.singleton_append,removeAll_pair_append apart,removeAll_pair]

theorem removeAll_pair_append_iff (different : x ≠ y) (front back : List α) :
    removeAll [x,y] (front ++ back) = removeAll [x,y] front ++ removeAll [x,y] back ↔ ¬([x] <:+ front ∧ [y] <+: back) := by
  refine ⟨?_,removeAll_pair_append⟩
  rintro same ⟨⟨front,rfl⟩,⟨back,rfl⟩⟩
  have apart : ¬([x] <:+ front ∧ [y] <+: [x]) := fun ⟨_,begins⟩ => different (List.cons_prefix_cons.mp begins).1.symm
  have alone : ¬[x,y] <+: [x] := fun here => absurd here.length_le (by simp)
  have later : ¬[x,y] <+: y :: back := fun here => different (List.cons_prefix_cons.mp here).1
  rw [List.singleton_append,removeAll_pair_across different,removeAll_pair_append apart,removeAll_cons alone,
    removeAll_nil,removeAll_cons later] at same
  -- Erased one by one, the lists keep both elements of the pair between them.
  have length := congrArg List.length same
  simp only [List.length_append,List.length_cons,List.length_nil] at length
  omega

theorem dropStart?_append_append (start more rest : List α) :
    dropStart? (start ++ more) (start ++ rest) = dropStart? more rest := by
  induction start with
  | nil => rfl
  | cons a start ih => rw [List.cons_append,List.cons_append,dropStart?,beq_self_eq_true,if_pos rfl,ih]

theorem dropStart?_singleton {whole rest : List α} : dropStart? [a] whole = some rest ↔ whole = a :: rest :=
  dropStart?_eq_some_iff.trans eq_comm

end TabCompletion.Text
