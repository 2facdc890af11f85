import TabCompletion.Proofs.Text.Pieces

/-!
# Joining lines and splitting them

A text that is joined from lines and their terminators splits into those lines (`pieces_joined`), unless a
carriage return meets the line feed of an empty line. The lines of any text are what the rounds of a loop
cut off it (`Pieces.cutWithin`), and one stands before each terminator (`Pieces.length_eq`).
-/
namespace TabCompletion.Text

inductive Terminator where
  | pair
  | return
  | feed

def Terminator.chars : Terminator → List Char
  | pair => ['\r','\n']
  | «return» => ['\r']
  | feed => ['\n']

structure EndedLine where
  line : String
  terminator : Terminator

/-- Lines with their terminators, and after them a line without one; there is none if it is empty. -/
def joined : List EndedLine → String → String
  | [], last => last
  | ended :: more, last => ended.line ++ String.ofList ended.terminator.chars ++ joined more last

/-- A lone carriage return before an empty line that a lone line feed ends: the two read as one terminator. -/
def Meets (ended : List EndedLine) : Prop := ∃ line, [⟨line,.return⟩,⟨"",.feed⟩] <:+: ended

def ordinary (c : Char) : Bool := c != '\r' && c != '\n'

/-- What stands after the terminator at the start. -/
def afterBreak : List Char → List Char
  | '\r' :: '\n' :: rest => rest
  | rest => rest.tail

/-- The lines that a loop cuts off a text, one in a round up to the first terminator; `none` if the rounds
are not enough. -/
def cutWithin : Nat → List Char → Option (List (List Char))
  | _, [] => some []
  | 0, _ :: _ => none
  | rounds + 1, c :: cs =>
    (cutWithin rounds (afterBreak ((c :: cs).dropWhile ordinary))).map ((c :: cs).takeWhile ordinary :: ·)

/-- The terminators of a text, from the left; a carriage return and a line feed are one. -/
def breaks : List Char → Nat
  | [] => 0
  | '\r' :: '\n' :: rest => breaks rest + 1
  | '\r' :: rest => breaks rest + 1
  | '\n' :: rest => breaks rest + 1
  | _ :: rest => breaks rest

/-- Whether the text has a last line without a terminator. -/
def endsOpen (cs : List Char) : Bool := cs.getLast?.any ordinary

variable {c b : Char} {cs piece rest : List Char} {pieces : List (List Char)}

theorem ordinary_iff : ordinary c = true ↔ c ≠ '\r' ∧ c ≠ '\n' := by simp [ordinary]

theorem InLine.ordinary (inLine : InLine piece) (c : Char) (member : c ∈ piece) : ordinary c = true :=
  ordinary_iff.mpr (inLine c member)

theorem InLine.filter (inLine : InLine piece) : piece.filter Text.ordinary = piece :=
  List.filter_eq_self.mpr inLine.ordinary

/-- A joined text begins with a line feed if its first line is empty and a line feed ends it. -/
theorem begins_feed {ended : List EndedLine} {last : String} (inLines : ∀ e ∈ ended, InLine e.line.toList)
    (inLast : InLine last.toList) (feed : (joined ended last).toList.head? = some '\n') :
    ∃ more, ended = ⟨"",.feed⟩ :: more := by
  cases ended with
  | nil => exact absurd rfl (inLast '\n' (List.mem_of_head? feed)).2
  | cons e more =>
    obtain ⟨line,terminator⟩ := e
    simp only [joined,String.toList_append,String.toList_ofList] at feed
    cases empty : line.toList with
    | cons c chars =>
      rw [empty] at feed
      obtain rfl : c = '\n' := Option.some_inj.mp feed
      have member : '\n' ∈ line.toList := empty ▸ List.mem_cons_self
      exact absurd rfl (inLines _ List.mem_cons_self '\n' member).2
    | nil =>
      rw [empty] at feed
      obtain rfl : line = "" := String.toList_eq_nil_iff.mp empty
      cases terminator with
      | pair => exact absurd (Option.some_inj.mp feed) (by decide)
      | «return» => exact absurd (Option.some_inj.mp feed) (by decide)
      | feed => exact ⟨more,rfl⟩

/-- The pieces of a joined text are the lines. -/
theorem pieces_joined {ended : List EndedLine} {last : String} (inLines : ∀ e ∈ ended, InLine e.line.toList)
    (inLast : InLine last.toList) (apart : ¬Meets ended) :
    Pieces (joined ended last).toList ((ended.map (·.line) ++ if last = "" then [] else [last]).map String.toList) := by
  induction ended with
  | nil =>
    by_cases empty : last = ""
    · rw [empty]
      exact .nil
    · rw [if_neg empty]
      exact .last inLast (mt String.toList_eq_nil_iff.mp empty)
  | cons e more ih =>
    obtain ⟨first,others⟩ := List.forall_mem_cons.mp inLines
    have later := ih others fun ⟨line,inside⟩ => apart ⟨line,inside.trans (List.suffix_cons e more).isInfix⟩
    obtain ⟨line,terminator⟩ := e
    rw [joined,String.toList_append,String.toList_append,String.toList_ofList,List.append_assoc]
    cases terminator with
    | pair => exact .pair first later
    | feed => exact .feed first later
    | «return» =>
      refine .return first (fun feed => ?_) later
      obtain ⟨after,rfl⟩ := begins_feed others inLast feed
      exact apart ⟨line,[],after,rfl⟩

-- Where they meet, a line is lost.
example : lines (joined [⟨"a",.return⟩,⟨"",.feed⟩] "") = ["a"] := by decide

/-! ## Rounds -/

/-- A round cuts off the first piece. -/
theorem Pieces.cut (split : Pieces cs (piece :: pieces)) :
    cs.takeWhile ordinary = piece ∧ Pieces (afterBreak (cs.dropWhile ordinary)) pieces := by
  cases split with
  | last inLine nonempty =>
    rw [List.takeWhile_eq_self_iff.mpr inLine.ordinary,List.dropWhile_eq_nil_iff.mpr inLine.ordinary]
    exact ⟨rfl,.nil⟩
  | pair inLine later =>
    rw [List.takeWhile_append_of_pos inLine.ordinary,List.dropWhile_append_of_pos inLine.ordinary]
    exact ⟨List.append_nil piece,later⟩
  | feed inLine later =>
    rw [List.takeWhile_append_of_pos inLine.ordinary,List.dropWhile_append_of_pos inLine.ordinary]
    exact ⟨List.append_nil piece,later⟩
  | @«return» _ rest _ inLine lone later =>
    rw [List.takeWhile_append_of_pos inLine.ordinary,List.dropWhile_append_of_pos inLine.ordinary]
    have after : afterBreak ('\r' :: rest) = rest := afterBreak.eq_2 _ fun more pair => by
      rw [(List.cons_eq_cons.mp pair).2] at lone
      exact lone rfl
    exact ⟨List.append_nil piece,by simpa [ordinary,after] using later⟩

theorem Pieces.eq_nil (split : Pieces cs []) : cs = [] := by cases split; rfl

/-- The loop ends, with the pieces: it needs one round for each. -/
theorem Pieces.cutWithin (split : Pieces cs pieces) (rounds : Nat) :
    cutWithin rounds cs = if pieces.length ≤ rounds then some pieces else none := by
  induction pieces generalizing cs rounds with
  | nil =>
    rw [split.eq_nil]
    simp [Text.cutWithin]
  | cons piece pieces ih =>
    cases cs with
    | nil => cases pieces_iff.mp split
    | cons c cs =>
      obtain ⟨line,later⟩ := split.cut
      cases rounds with
      | zero => rfl
      | succ rounds =>
        rw [Text.cutWithin,ih later rounds,line,List.length_cons]
        by_cases enough : pieces.length ≤ rounds
        · rw [if_pos enough,if_pos (Nat.succ_le_succ enough)]
          rfl
        · rw [if_neg enough,if_neg (mt Nat.le_of_succ_le_succ enough)]
          rfl

/-- The pieces have the characters that are not of a terminator. -/
theorem Pieces.flatten (split : Pieces cs pieces) : pieces.flatten = cs.filter ordinary := by
  induction split with
  | nil => rfl
  | last inLine nonempty => rw [inLine.filter,List.flatten_singleton]
  | pair inLine later ih => rw [List.flatten_cons,ih,List.filter_append,inLine.filter]; rfl
  | «return» inLine lone later ih => rw [List.flatten_cons,ih,List.filter_append,inLine.filter]; rfl
  | feed inLine later ih => rw [List.flatten_cons,ih,List.filter_append,inLine.filter]; rfl

theorem breaks_append (inLine : InLine piece) : breaks (piece ++ rest) = breaks rest := by
  induction piece with
  | nil => rfl
  | cons c piece ih =>
    obtain ⟨⟨notReturn,notFeed⟩,others⟩ := List.forall_mem_cons.mp inLine
    rw [List.cons_append,breaks.eq_5 c _ (fun _ same _ => notReturn same) notReturn notFeed,ih others]

theorem breaks_lone (lone : rest.head? ≠ some '\n') : breaks ('\r' :: rest) = breaks rest + 1 :=
  breaks.eq_3 rest fun _ pair => lone (congrArg List.head? pair)

/-- What stands before a terminator does not matter to whether the text has a last line without one. -/
theorem endsOpen_append (front : List Char) (other : ordinary b = false) : endsOpen (front ++ b :: rest) = endsOpen rest := by
  rw [endsOpen,endsOpen,List.getLast?_append,List.getLast?_cons]
  cases rest.getLast? with
  | none => exact other
  | some c => rfl

theorem InLine.endsOpen (inLine : InLine piece) (nonempty : piece ≠ []) : endsOpen piece = true := by
  rw [Text.endsOpen,List.getLast?_eq_some_getLast nonempty]
  exact inLine.ordinary _ (List.getLast_mem nonempty)

/-- There is a piece before each terminator, and one after them if anything stands there. -/
theorem Pieces.length_eq (split : Pieces cs pieces) : pieces.length = breaks cs + if endsOpen cs then 1 else 0 := by
  induction split with
  | nil => rfl
  | @last piece inLine nonempty =>
    have noBreaks : breaks piece = 0 := by rw [← List.append_nil piece,breaks_append inLine,breaks]
    rw [noBreaks,if_pos (inLine.endsOpen nonempty)]
    rfl
  | @pair piece rest pieces inLine later ih =>
    have after : endsOpen (piece ++ '\r' :: '\n' :: rest) = endsOpen rest :=
      (endsOpen_append piece rfl).trans (endsOpen_append [] rfl)
    rw [after,breaks_append inLine,breaks,List.length_cons,ih,Nat.add_right_comm]
  | «return» inLine lone later ih =>
    rw [endsOpen_append _ rfl,breaks_append inLine,breaks_lone lone,List.length_cons,ih,Nat.add_right_comm]
  | feed inLine later ih =>
    rw [endsOpen_append _ rfl,breaks_append inLine,breaks,List.length_cons,ih,Nat.add_right_comm]

/-- Splitting takes apart what joining puts together, and it gives the lines of any text. -/
theorem splitting_inverts_joining :
    (∀ (ended : List EndedLine) (last : String), (∀ e ∈ ended, InLine e.line.toList) → InLine last.toList →
      ¬Meets ended → lines (joined ended last) = ended.map (·.line) ++ if last = "" then [] else [last]) ∧
    ∀ text : String,
      -- The loop ends, after one round for each line.
      (∀ rounds, (cutWithin rounds text.toList).map (·.map String.ofList) =
        if (lines text).length ≤ rounds then some (lines text) else none) ∧
      (∀ line ∈ lines text, InLine line.toList) ∧
      String.join (lines text) = String.ofList (text.toList.filter ordinary) ∧
      (lines text).length = breaks text.toList + if endsOpen text.toList then 1 else 0 := by
  refine ⟨fun ended last inLines inLast apart => ?_,fun text => ⟨fun rounds => ?_,fun line member => ?_,?_,?_⟩⟩
  · rw [lines,pieces_iff.mp (pieces_joined inLines inLast apart),List.map_map]
    simp
  · rw [(pieces_linesChars text.toList).cutWithin rounds,lines,List.length_map]
    split <;> rfl
  · obtain ⟨chars,among,rfl⟩ := List.mem_map.mp member
    rw [String.toList_ofList]
    exact inLine_of_mem_linesChars among
  · rw [← (pieces_linesChars text.toList).flatten,lines,← String.toList_inj]
    simp [List.flatMap_map,List.flatMap_id']
  · rw [lines,List.length_map,(pieces_linesChars text.toList).length_eq]

theorem mixed_terminators_split :
    lines "\r\na  b\r\nc\rd\nfake:ks> " = ["","a  b","c","d","fake:ks> "] := by
  have joining : "\r\na  b\r\nc\rd\nfake:ks> " =
      joined [⟨"",.pair⟩,⟨"a  b",.pair⟩,⟨"c",.return⟩,⟨"d",.feed⟩] "fake:ks> " := by decide
  rw [joining]
  exact splitting_inverts_joining.1 _ _ (by simp [InLine]) (by simp [InLine]) (by simp [Meets,List.infix_cons_iff])

end TabCompletion.Text
