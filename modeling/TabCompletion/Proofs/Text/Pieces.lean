import TabCompletion.Proofs.Text.Words

/-!
# Pieces between line breaks

CR LF, a lone CR and a lone LF each end a line. `Pieces` says which lines a text is made of, and the lines
of a text are the only such pieces of it (`pieces_iff`).
-/
namespace TabCompletion.Text

/-- The pieces of a text between its line breaks; there is none after a line break at the end. -/
inductive Pieces : List Char → List (List Char) → Prop where
  | nil : Pieces [] []
  | last {piece : List Char} (inLine : InLine piece) (nonempty : piece ≠ []) : Pieces piece [piece]
  | pair {piece rest : List Char} {pieces : List (List Char)} (inLine : InLine piece) (later : Pieces rest pieces) :
      Pieces (piece ++ '\r' :: '\n' :: rest) (piece :: pieces)
  | return {piece rest : List Char} {pieces : List (List Char)} (inLine : InLine piece) (lone : rest.head? ≠ some '\n')
      (later : Pieces rest pieces) : Pieces (piece ++ '\r' :: rest) (piece :: pieces)
  | feed {piece rest : List Char} {pieces : List (List Char)} (inLine : InLine piece) (later : Pieces rest pieces) :
      Pieces (piece ++ '\n' :: rest) (piece :: pieces)

variable {c : Char} {cs piece : List Char} {pieces : List (List Char)}

theorem inLine_nil : InLine [] := fun _ member => absurd member List.not_mem_nil

theorem InLine.cons (first : c ≠ '\r' ∧ c ≠ '\n') (inLine : InLine cs) : InLine (c :: cs) :=
  List.forall_mem_cons.mpr ⟨first,inLine⟩

/-- One more character at the start of the first piece. -/
theorem Pieces.cons (split : Pieces cs (piece :: pieces)) (first : c ≠ '\r' ∧ c ≠ '\n') :
    Pieces (c :: cs) ((c :: piece) :: pieces) := by
  cases split with
  | last inLine nonempty => exact .last (inLine.cons first) (List.cons_ne_nil c _)
  | pair inLine later => exact .pair (inLine.cons first) later
  | «return» inLine lone later => exact .return (inLine.cons first) lone later
  | feed inLine later => exact .feed (inLine.cons first) later

theorem pieces_linesChars (cs : List Char) : Pieces cs (linesChars cs) := by
  induction cs using linesChars.induct with
  | case1 => exact .nil
  | case2 rest ih => exact .pair inLine_nil ih
  | case3 rest notPair ih =>
    rw [linesChars.eq_3 rest notPair]
    refine .return inLine_nil (fun next => ?_) ih
    obtain ⟨more,pair⟩ := List.head?_eq_some_iff.mp next
    exact notPair more pair
  | case4 rest ih => exact .feed inLine_nil ih
  | case5 c rest notPair notReturn notFeed noLines ih =>
    rw [linesChars_cons notReturn notFeed,noLines]
    rw [noLines] at ih
    cases ih
    exact .last (inLine_nil.cons ⟨notReturn,notFeed⟩) (List.cons_ne_nil c [])
  | case6 c rest notPair notReturn notFeed line more split ih =>
    rw [linesChars_cons notReturn notFeed,split]
    rw [split] at ih
    exact ih.cons ⟨notReturn,notFeed⟩

/-- A text has one way to be taken apart into pieces. -/
theorem pieces_iff : Pieces cs pieces ↔ linesChars cs = pieces := by
  constructor
  · intro split
    induction split with
    | nil => rfl
    | last inLine nonempty => exact linesChars_inLine inLine nonempty
    | pair inLine later ih => rw [linesChars_append_ends inLine rfl,ih]
    | «return» inLine lone later ih =>
      have ends := linesChars.eq_3 _ fun more pair => lone (congrArg List.head? pair)
      rw [linesChars_append_ends inLine ends,ih]
    | feed inLine later ih => rw [linesChars_append_ends inLine rfl,ih]
  · rintro rfl
    exact pieces_linesChars cs

end TabCompletion.Text
