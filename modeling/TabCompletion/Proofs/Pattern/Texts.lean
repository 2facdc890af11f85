import TabCompletion.Proofs.Pattern.Occurrences
import TabCompletion.Proofs.Text.Utf8

/-!
# Finding text in text

Only the first byte of a character can begin one (`encodeChar_eq_cons`). So the bytes of a text stand in
those of another just where the text does (`encodeChars_infix_iff`), and a pattern that spells a text is
found in the texts that contain it (`isFoundIn_encodeChars_iff`).
-/
namespace TabCompletion

namespace Utf8

open Pattern.Cursor (isContinuation)

variable {c : Char} {xs ys : List Char}

theorem isContinuation_ofNat {n : Nat} (small : n < 256) :
    isContinuation (UInt8.ofNat n) = (decide (0x80 ≤ n) && decide (n < 0xC0)) := by
  simp [isContinuation,UInt8.le_iff_toNat_le,UInt8.lt_iff_toNat_lt,toNat_ofNat small]

/-- The first byte of a character begins it, and the others continue it. -/
theorem encodeChar_eq_cons (c : Char) : ∃ b rest, encodeChar c = b :: rest ∧ isContinuation b = false ∧
    ∀ b' ∈ rest, isContinuation b' = true := by
  have begins {n : Nat} (small : n < 256) (out : n < 0x80 ∨ 0xC0 ≤ n) : isContinuation (UInt8.ofNat n) = false := by
    rw [isContinuation_ofNat small,Bool.and_eq_false_iff,decide_eq_false_iff_not,decide_eq_false_iff_not]
    omega
  have continues (n : Nat) : isContinuation (UInt8.ofNat (n % 64 + 128)) = true := by
    rw [isContinuation_ofNat (by omega),Bool.and_eq_true,decide_eq_true_eq,decide_eq_true_eq]
    omega
  have vacuous : ∀ b' ∈ ([] : Bytes), isContinuation b' = true := nofun
  unfold encodeChar String.utf8EncodeChar
  dsimp only
  split
  next one => exact ⟨_,_,rfl,begins (by omega) (.inl (by omega)),vacuous⟩
  split
  next two => exact ⟨_,_,rfl,begins (by omega) (.inr (by omega)),List.forall_mem_cons.mpr ⟨continues _,vacuous⟩⟩
  split
  next three =>
    exact ⟨_,_,rfl,begins (by omega) (.inr (by omega)),
      List.forall_mem_cons.mpr ⟨continues _,List.forall_mem_cons.mpr ⟨continues _,vacuous⟩⟩⟩
  next four =>
    exact ⟨_,_,rfl,begins (by omega) (.inr (by omega)),List.forall_mem_cons.mpr
      ⟨continues _,List.forall_mem_cons.mpr ⟨continues _,List.forall_mem_cons.mpr ⟨continues _,vacuous⟩⟩⟩⟩

theorem encodeChars_prefix_iff : encodeChars xs <+: encodeChars ys ↔ xs <+: ys := by
  constructor
  · rintro ⟨rest,whole⟩
    have read := items_encodeChars_append xs rest
    rw [whole,items_encodeChars] at read
    have injective : Function.Injective Item.char := fun _ _ same => Item.char.inj same
    exact (List.prefix_map_iff_of_injective injective).mp ⟨items rest,read.symm⟩
  · rintro ⟨rest,rfl⟩
    rw [encodeChars_append]
    exact List.prefix_append _ _

/-- What is read of a character after its first byte begins no character. -/
theorem continues_of_later {a b : UInt8} {lead rest : Bytes} (split : encodeChar c = a :: lead ++ b :: rest) :
    isContinuation b = true := by
  obtain ⟨first,others,is,-,continues⟩ := encodeChar_eq_cons c
  rw [is,List.cons_append] at split
  obtain ⟨-,later⟩ := List.cons.inj split
  refine continues b ?_
  rw [later]
  exact List.mem_append_right lead List.mem_cons_self

theorem begins_of_first {b : UInt8} {tail rest : Bytes} (first : encodeChars (c :: xs) ++ tail = b :: rest) :
    isContinuation b = false := by
  obtain ⟨a,others,is,begins,-⟩ := encodeChar_eq_cons c
  rw [encodeChars_cons,is] at first
  rwa [← (List.cons.inj first).1]

/-- The bytes of a text stand in the bytes of another just if the text stands in the other. -/
theorem encodeChars_infix_iff : encodeChars xs <:+: encodeChars ys ↔ xs <:+: ys := by
  constructor
  · intro inside
    obtain _ | ⟨x,xs⟩ := xs
    · exact List.nil_infix
    induction ys with
    | nil =>
      obtain ⟨b,rest,first,-⟩ := encodeChar_eq_cons x
      rw [encodeChars_nil,encodeChars_cons,first,List.cons_append,List.infix_nil] at inside
      cases inside
    | cons y ys ih =>
      obtain ⟨lead,tail,whole⟩ := inside
      rw [encodeChars_cons y,List.append_assoc] at whole
      -- The text begins before the end of the first character or after it.
      rcases List.append_eq_append_iff.mp whole with ⟨rest,split,there⟩ | ⟨more,beyond,there⟩
      · obtain _ | ⟨a,lead⟩ := lead
        · have here : encodeChars (x :: xs) <+: encodeChars (y :: ys) := by
            rw [encodeChars_cons y,← whole]
            exact List.prefix_append _ _
          exact (encodeChars_prefix_iff.mp here).isInfix
        obtain _ | ⟨b,rest⟩ := rest
        · have next : encodeChars (x :: xs) <+: encodeChars ys := ⟨tail,there⟩
          exact List.infix_cons (encodeChars_prefix_iff.mp next).isInfix
        · exact absurd (begins_of_first there) (by simp [continues_of_later split])
      · have later : encodeChars (x :: xs) <:+: encodeChars ys := by
          rw [there]
          exact ⟨more,tail,by simp⟩
        exact List.infix_cons (ih later)
  · rintro ⟨lead,tail,rfl⟩
    rw [encodeChars_append,encodeChars_append]
    exact ⟨_,_,rfl⟩

end Utf8

namespace Pattern

variable {p : Pattern} {cs line : List Char}

/-- The bytes of some text begin where a character does. -/
theorem begins_encodeChars (something : cs ≠ []) (text : Bool) : Begins text (Utf8.encodeChars cs) := by
  obtain ⟨c,rest,rfl⟩ := List.exists_cons_of_ne_nil something
  intro _
  obtain ⟨b,others,is,begins,-⟩ := Utf8.encodeChar_eq_cons c
  exact ⟨b,others ++ Utf8.encodeChars rest,by rw [Utf8.encodeChars_cons,is,List.cons_append],begins⟩

theorem isBoundary_start (line : List Char) : (Cursor.start (Utf8.encodeChars line)).isBoundary = true := by
  obtain _ | ⟨c,rest⟩ := line
  · rfl
  · obtain ⟨b,others,is,begins⟩ := begins_encodeChars (List.cons_ne_nil c rest) true rfl
    simp [is,Cursor.start,Cursor.isBoundary,begins]

/-- A pattern that matches nothing but the empty text is found in every text. -/
theorem isFoundIn_of_empty (spells : p.expr.Spells []) (line : List Char) : p.isFoundIn (Utf8.encodeChars line) = true := by
  have here : p.expr.ends (.start (Utf8.encodeChars line)) = [.start (Utf8.encodeChars line)] := by
    rw [spells.ends,if_pos List.nil_prefix]
    rfl
  have boundary : (p.text && !(Cursor.start (Utf8.encodeChars line)).isBoundary) = false := by
    rw [isBoundary_start,Bool.not_true,Bool.and_false]
  rw [isFoundIn,find?,spells.needs,if_pos (List.isSublist_iff_sublist.mpr (List.nil_sublist _)),Expr.findFrom.eq_def]
  simp [boundary,here]

/-- A pattern that spells a text is found in the texts that contain it, and in no other text. -/
theorem isFoundIn_encodeChars_iff (spells : p.expr.Spells (Utf8.encodeChars cs)) :
    p.isFoundIn (Utf8.encodeChars line) = true ↔ cs <:+: line := by
  by_cases something : cs = []
  · subst something
    exact ⟨fun _ => List.nil_infix,fun _ => isFoundIn_of_empty spells line⟩
  · rw [isFoundIn_iff spells (begins_encodeChars something p.text),Utf8.encodeChars_infix_iff]

end Pattern
end TabCompletion
