import TabCompletion.Probe
import TabCompletion.Proofs.Pattern.Occurrences
import TabCompletion.Proofs.Text.Erasing

/-!
# What is left between the occurrences of a piece

Bytes are cut where a piece stands first, and then again after it, in just one way (`exists_segments`,
`Segments.unique`), and `removeAll` puts the segments together again without the piece
(`removal_joins_segments`). A pair of different bytes overlaps itself nowhere, so all its places are cut
(`length_removeAll_pair`).
-/
namespace TabCompletion.Text

open Pattern (FirstAt exists_firstAt_iff)

/-- Bytes cut at a piece: each of the parts runs up to where the piece stands first, and after the last of
    them it stands nowhere. -/
structure Segments (piece whole : Bytes) (parts : List Bytes) (last : Bytes) : Prop where
  whole : whole = (parts.map (· ++ piece)).flatten ++ last
  first : ∀ part ∈ parts, FirstAt piece (part ++ piece) part.length
  absent : ¬piece <:+: last

/-- Rounds of a loop that passes over the piece where it comes next and keeps a byte elsewhere; `none` if they
    are not enough for all bytes. -/
def removeWithin (piece : Bytes) : Nat → Bytes → Option Bytes
  | _, [] => some []
  | 0, _ :: _ => none
  | rounds + 1, b :: rest =>
    match dropStart? piece (b :: rest) with
    | some after => removeWithin piece rounds after
    | none => (removeWithin piece rounds rest).map (b :: ·)

/-- The number of places where the piece stands, whether they overlap or not. -/
def occurrences (piece whole : Bytes) : Nat := whole.tails.countP piece.isPrefixOf

variable {piece whole part rest last left : Bytes} {parts : List Bytes} {b : UInt8}

theorem exists_first (inside : piece <:+: whole) :
    ∃ part rest, whole = part ++ piece ++ rest ∧ FirstAt piece (part ++ piece) part.length := by
  obtain ⟨n,first⟩ := exists_firstAt_iff.mpr inside
  obtain ⟨rest,there⟩ := first.here
  have fits := first.length_le
  have length : (whole.take n).length = n := by rw [List.length_take]; omega
  have split : whole = whole.take n ++ piece ++ rest := by rw [List.append_assoc,there,List.take_append_drop]
  refine ⟨whole.take n,rest,split,?_⟩
  rw [length]
  rw [split] at first
  exact first.of_append (by rw [List.length_append,length])

theorem Segments.cons (first : FirstAt piece (part ++ piece) part.length) (segments : Segments piece rest parts last) :
    Segments piece (part ++ piece ++ rest) (part :: parts) last where
  whole := by rw [segments.whole,List.map_cons,List.flatten_cons,List.append_assoc (part ++ piece)]
  first := List.forall_mem_cons.mpr ⟨first,segments.first⟩
  absent := segments.absent

theorem exists_segments (nonempty : piece ≠ []) (whole : Bytes) : ∃ parts last, Segments piece whole parts last := by
  induction size : whole.length using Nat.strong_induction_on generalizing whole with
  | _ bound ih =>
    by_cases inside : piece <:+: whole
    · obtain ⟨part,rest,rfl,first⟩ := exists_first inside
      have positive := List.length_pos_iff.mpr nonempty
      have shorter : rest.length < bound := by
        rw [← size,List.length_append,List.length_append]
        omega
      obtain ⟨parts,last,segments⟩ := ih rest.length shorter rest rfl
      exact ⟨part :: parts,last,segments.cons first⟩
    · exact ⟨[],whole,rfl,List.forall_mem_nil _,inside⟩

theorem Segments.of_cons (segments : Segments piece whole (part :: parts) last) :
    ∃ rest, whole = part ++ piece ++ rest ∧ FirstAt piece (part ++ piece) part.length ∧ Segments piece rest parts last := by
  obtain ⟨first,later⟩ := List.forall_mem_cons.mp segments.first
  refine ⟨_,?_,first,rfl,later,segments.absent⟩
  rw [segments.whole,List.map_cons,List.flatten_cons,List.append_assoc]

theorem Segments.of_nil (segments : Segments piece whole [] last) : whole = last := segments.whole

theorem Segments.eq_nil {others : List Bytes} {final : Bytes} (segments : Segments piece whole [] last)
    (other : Segments piece whole others final) : others = [] := by
  cases others with
  | nil => rfl
  | cons part others =>
    obtain ⟨rest,cut,-⟩ := other.of_cons
    have absent := segments.absent
    rw [← segments.of_nil,cut] at absent
    exact absurd ⟨part,rest,rfl⟩ absent

theorem Segments.unique {others : List Bytes} {final : Bytes} (segments : Segments piece whole parts last)
    (other : Segments piece whole others final) : others = parts ∧ final = last := by
  induction parts generalizing whole others with
  | nil =>
    obtain rfl := segments.eq_nil other
    exact ⟨rfl,other.of_nil.symm.trans segments.of_nil⟩
  | cons part parts ih =>
    obtain ⟨rest,cut,first,later⟩ := segments.of_cons
    cases others with
    | nil => cases other.eq_nil segments
    | cons part' others =>
      obtain ⟨rest',cut',first',later'⟩ := other.of_cons
      have places : part.length = part'.length :=
        (cut ▸ first.append rest).unique (cut' ▸ first'.append rest')
      rw [cut,List.append_assoc,List.append_assoc] at cut'
      obtain ⟨rfl,same⟩ := List.append_inj cut' places
      obtain rfl := List.append_cancel_left same
      obtain ⟨rfl,rfl⟩ := ih later later'
      exact ⟨rfl,rfl⟩

/-! ## Rounds -/

theorem removeWithin_piece (nonempty : piece ≠ []) (rounds : Nat) (rest : Bytes) :
    removeWithin piece (rounds + 1) (piece ++ rest) = removeWithin piece rounds rest := by
  obtain ⟨b,more,rfl⟩ := List.exists_cons_of_ne_nil nonempty
  have here := dropStart?_append (b :: more) rest
  rw [List.cons_append] at here ⊢
  rw [removeWithin,here]

theorem removeWithin_other (other : ¬piece <+: b :: rest) (rounds : Nat) :
    removeWithin piece (rounds + 1) (b :: rest) = (removeWithin piece rounds rest).map (b :: ·) := by
  have notHere : dropStart? piece (b :: rest) = none := by
    rw [Option.eq_none_iff_forall_not_mem]
    intro after dropped
    exact other ⟨after,dropStart?_eq_some_iff.mp dropped⟩
  rw [removeWithin,notHere]

theorem removeAll_of_rounds (nonempty : piece ≠ []) {rounds : Nat} (done : removeWithin piece rounds whole = some left) :
    removeAll piece whole = left := by
  induction rounds generalizing whole left with
  | zero =>
    cases whole with
    | nil => cases done; exact removeAll_nil
    | cons b rest => cases done
  | succ rounds ih =>
    cases whole with
    | nil => cases done; exact removeAll_nil
    | cons b rest =>
      by_cases here : piece <+: b :: rest
      · obtain ⟨after,split⟩ := here
        rw [← split,removeWithin_piece nonempty] at done
        rw [← split,removeAll_append_piece nonempty,ih done]
      · rw [removeWithin_other here] at done
        obtain ⟨more,later,rfl⟩ := Option.map_eq_some_iff.mp done
        rw [removeAll_cons here,ih later]

theorem removeWithin_absent (absent : ¬piece <:+: whole) (rounds : Nat) :
    removeWithin piece rounds whole = if whole.length ≤ rounds then some whole else none := by
  induction whole generalizing rounds with
  | nil => cases rounds <;> rfl
  | cons b rest ih =>
    cases rounds with
    | zero => rfl
    | succ rounds =>
      have later := ih (fun inside => absent (inside.trans (List.suffix_cons b rest).isInfix)) rounds
      rw [removeWithin_other fun here => absent here.isInfix,later,List.length_cons]
      simp only [Nat.add_le_add_iff_right]
      split <;> rfl

/-- Up to the first place of the piece there is a round for each byte, and one for the piece. -/
theorem removeWithin_first (nonempty : piece ≠ []) (first : FirstAt piece (part ++ piece) part.length) (rounds : Nat) :
    removeWithin piece rounds (part ++ piece ++ rest) =
      if part.length < rounds then (removeWithin piece (rounds - (part.length + 1)) rest).map (part ++ ·) else none := by
  induction part generalizing rounds with
  | nil =>
    cases rounds with
    | zero =>
      obtain ⟨b,more,rfl⟩ := List.exists_cons_of_ne_nil nonempty
      rfl
    | succ rounds =>
      rw [List.nil_append,removeWithin_piece nonempty,List.length_nil,if_pos (Nat.zero_lt_succ rounds)]
      exact Option.map_id'.symm
  | cons b part ih =>
    cases rounds with
    | zero => rfl
    | succ rounds =>
      have other : ¬piece <+: b :: (part ++ piece) := first.first 0 (Nat.zero_lt_succ _)
      have other' : ¬piece <+: b :: (part ++ piece ++ rest) := (first.append rest).first 0 (Nat.zero_lt_succ _)
      obtain ⟨k,length,later⟩ := (FirstAt.cons_iff other).mp first
      obtain rfl : part.length = k := Nat.succ.inj length
      rw [List.cons_append,List.cons_append,removeWithin_other other',ih later,List.length_cons]
      simp only [Nat.add_lt_add_iff_right,Nat.add_sub_add_right]
      split
      · rw [Option.map_map]
        rfl
      · rfl

/-- The loop ends, with the segments in a row: it needs one round for each of their bytes and one for each piece. -/
theorem Segments.removeWithin (segments : Segments piece whole parts last) (nonempty : piece ≠ []) (rounds : Nat) :
    removeWithin piece rounds whole =
      if (parts.flatten ++ last).length + parts.length ≤ rounds then some (parts.flatten ++ last) else none := by
  induction parts generalizing whole rounds with
  | nil =>
    have absent := segments.absent
    rw [← segments.of_nil] at absent ⊢
    exact removeWithin_absent absent rounds
  | cons part parts ih =>
    obtain ⟨rest,rfl,first,later⟩ := segments.of_cons
    have length : (part ++ (parts.flatten ++ last)).length = part.length + (parts.flatten ++ last).length :=
      List.length_append
    rw [removeWithin_first nonempty first,ih later,List.flatten_cons,List.append_assoc,length,List.length_cons]
    generalize (parts.flatten ++ last).length = size
    by_cases enough : part.length + size + (parts.length + 1) ≤ rounds
    · rw [if_pos enough,if_pos (by omega),if_pos (by omega)]
      rfl
    · rw [if_neg enough]
      by_cases below : part.length < rounds
      · rw [if_pos below,if_neg (by omega)]
        rfl
      · rw [if_neg below]

theorem occurrences_cons (b : UInt8) (rest : Bytes) :
    occurrences piece (b :: rest) = occurrences piece rest + if piece <+: b :: rest then 1 else 0 := by
  unfold occurrences
  rw [List.tails_cons,List.countP_cons]
  simp only [List.isPrefixOf_iff_prefix]

/-- Each occurrence of a pair of different bytes takes both of them away. -/
theorem length_removeAll_pair {x y : UInt8} (different : x ≠ y) : ∀ whole : Bytes,
    (removeAll [x,y] whole).length + 2 * occurrences [x,y] whole = whole.length
  | [] => by rw [removeAll_nil]; rfl
  | [a] => by
    have alone : ¬[x,y] <+: [a] := fun here => absurd here.length_le (by simp)
    rw [removeAll_cons alone,occurrences_cons,if_neg alone,removeAll_nil]
    rfl
  | a :: b :: more => by
    by_cases here : [x,y] <+: a :: b :: more
    · obtain ⟨rest,split⟩ := here
      obtain ⟨rfl,rfl,rfl⟩ : x = a ∧ y = b ∧ rest = more := by simpa using split
      have later : ¬[x,y] <+: y :: rest := fun inside => different (List.cons_prefix_cons.mp inside).1
      have length := length_removeAll_pair different rest
      rw [removeAll_pair,occurrences_cons,if_pos ⟨rest,rfl⟩,occurrences_cons,if_neg later,List.length_cons,List.length_cons]
      omega
    · have length := length_removeAll_pair different (b :: more)
      rw [removeAll_cons here,occurrences_cons,if_neg here,List.length_cons,List.length_cons,Nat.add_zero]
      omega

/-- The bytes are segments with the piece after each of them and a last one, and that in one way: in each the
    piece stands at its end only, and in the last one nowhere. Removing the piece puts them together, by a loop
    that ends. What is erased from two lists of bytes in a row is what is erased from each of them, unless a
    pair begins in the first and ends in the second, and each pair that is erased takes two bytes away. -/
theorem removal_joins_segments :
    (∀ piece whole : Bytes, piece ≠ [] → ∃ parts last, Segments piece whole parts last ∧
      (∀ others final, Segments piece whole others final → others = parts ∧ final = last) ∧
      removeAll piece whole = parts.flatten ++ last ∧
      ∀ rounds, removeWithin piece rounds whole =
        if (removeAll piece whole).length + parts.length ≤ rounds then some (removeAll piece whole) else none) ∧
    (∀ front back : Bytes, removeAll erasePair (front ++ back) = removeAll erasePair front ++ removeAll erasePair back ↔
      ¬([0x20] <:+ front ∧ [0x08] <+: back)) ∧
    ∀ whole : Bytes, (removeAll erasePair whole).length + 2 * occurrences erasePair whole = whole.length := by
  refine ⟨fun piece whole nonempty => ?_,removeAll_pair_append_iff (by decide),length_removeAll_pair (by decide)⟩
  obtain ⟨parts,last,segments⟩ := exists_segments nonempty whole
  have rounds := segments.removeWithin nonempty
  have joined : removeAll piece whole = parts.flatten ++ last :=
    removeAll_of_rounds nonempty ((rounds _).trans (if_pos (Nat.le_refl _)))
  refine ⟨parts,last,segments,fun others final => segments.unique,joined,?_⟩
  rw [joined]
  exact rounds

/-- Of a piece that overlaps itself the places from the left count. -/
theorem removal_joins_overlapping : ([0x61,0x61] : Bytes) ≠ [] ∧
    Segments [0x61,0x61] [0x61,0x61,0x61,0x62,0x61,0x61] [[],[0x61,0x62]] [] ∧
    removeAll [0x61,0x61] ([0x61,0x61,0x61,0x62,0x61,0x61] : Bytes) = [0x61,0x62] := by
  have nonempty : ([0x61,0x61] : Bytes) ≠ [] := by decide
  have segments : Segments [0x61,0x61] [0x61,0x61,0x61,0x62,0x61,0x61] [[],[0x61,0x62]] [] :=
    { whole := rfl
      first := List.forall_mem_cons.mpr ⟨.start (List.prefix_refl _),List.forall_mem_singleton.mpr ⟨by decide,by decide⟩⟩
      absent := by decide }
  obtain ⟨parts,last,-,unique,joined,-⟩ := removal_joins_segments.1 _ [0x61,0x61,0x61,0x62,0x61,0x61] nonempty
  obtain ⟨rfl,rfl⟩ := unique _ _ segments
  exact ⟨nonempty,segments,joined⟩

end TabCompletion.Text
