import Mathlib.Data.List.Infix
import TabCompletion.Proofs.Text.Utf8

/-!
# Pieces of bytes

The items of a byte string are read from its bytes, one piece after the other: a character from the bytes
that encode it, and a malformed piece from at least one byte (`items_covered`). So every character of
decoded text stands in the bytes, and text is empty only if there are no bytes.
-/
namespace TabCompletion.Utf8

section Encoded

variable {b₁ b₂ b₃ b₄ : UInt8}

theorem val_ofNat {v : Nat} (valid : v.isValidChar) : (Char.ofNat v).val.toNat = v := by
  rw [Char.ofNat,dif_pos valid]
  rfl

theorem ofNat_eq (b : UInt8) {n : Nat} (same : n = b.toNat) : UInt8.ofNat n = b := by
  rw [same,UInt8.ofNat_toNat]

theorem encodeChar_one (small : b₁.toNat < 0x80) : encodeChar (Char.ofNat b₁.toNat) = [b₁] := by
  have same := val_ofNat (v:=b₁.toNat) (.inl (by omega))
  unfold encodeChar String.utf8EncodeChar
  dsimp only
  rw [same,if_pos (by omega),UInt8.ofNat_toNat]

theorem encodeChar_two (least₁ : 0xC2 ≤ b₁.toNat) (most₁ : b₁.toNat < 0xE0)
    (least₂ : 0x80 ≤ b₂.toNat) (most₂ : b₂.toNat ≤ 0xBF) :
    encodeChar (Char.ofNat ((b₁.toNat - 0xC0) * 64 + (b₂.toNat - 0x80))) = [b₁,b₂] := by
  have same := val_ofNat (v:=(b₁.toNat - 0xC0) * 64 + (b₂.toNat - 0x80)) (.inl (by omega))
  unfold encodeChar String.utf8EncodeChar
  dsimp only
  rw [same,if_neg (by omega),if_pos (by omega),ofNat_eq b₁ (by omega),ofNat_eq b₂ (by omega)]

/-- The range of the second byte leaves out overlong forms and surrogates. -/
theorem encodeChar_three (least₁ : 0xE0 ≤ b₁.toNat) (most₁ : b₁.toNat < 0xF0)
    (least₂ : (if b₁.toNat = 0xE0 then 0xA0 else 0x80) ≤ b₂.toNat)
    (most₂ : b₂.toNat ≤ if b₁.toNat = 0xED then 0x9F else 0xBF)
    (least₃ : 0x80 ≤ b₃.toNat) (most₃ : b₃.toNat ≤ 0xBF) :
    encodeChar (Char.ofNat (((b₁.toNat - 0xE0) * 64 + (b₂.toNat - 0x80)) * 64 + (b₃.toNat - 0x80))) = [b₁,b₂,b₃] := by
  have low : 0x80 ≤ b₂.toNat ∧ (b₁.toNat = 0xE0 → 0xA0 ≤ b₂.toNat) := by split at least₂ <;> omega
  have high : b₂.toNat ≤ 0xBF ∧ (b₁.toNat = 0xED → b₂.toNat ≤ 0x9F) := by split at most₂ <;> omega
  have valid : Nat.isValidChar (((b₁.toNat - 0xE0) * 64 + (b₂.toNat - 0x80)) * 64 + (b₃.toNat - 0x80)) := by
    unfold Nat.isValidChar
    omega
  unfold encodeChar String.utf8EncodeChar
  dsimp only
  rw [val_ofNat valid,if_neg (by omega),if_neg (by omega),if_pos (by omega),ofNat_eq b₁ (by omega),
    ofNat_eq b₂ (by omega),ofNat_eq b₃ (by omega)]

/-- The range of the second byte leaves out overlong forms and values above U+10FFFF. -/
theorem encodeChar_four (least₁ : 0xF0 ≤ b₁.toNat) (most₁ : b₁.toNat < 0xF5)
    (least₂ : (if b₁.toNat = 0xF0 then 0x90 else 0x80) ≤ b₂.toNat)
    (most₂ : b₂.toNat ≤ if b₁.toNat = 0xF4 then 0x8F else 0xBF)
    (least₃ : 0x80 ≤ b₃.toNat) (most₃ : b₃.toNat ≤ 0xBF) (least₄ : 0x80 ≤ b₄.toNat) (most₄ : b₄.toNat ≤ 0xBF) :
    encodeChar (Char.ofNat ((((b₁.toNat - 0xF0) * 64 + (b₂.toNat - 0x80)) * 64 + (b₃.toNat - 0x80)) * 64 +
      (b₄.toNat - 0x80))) = [b₁,b₂,b₃,b₄] := by
  have low : 0x80 ≤ b₂.toNat ∧ (b₁.toNat = 0xF0 → 0x90 ≤ b₂.toNat) := by split at least₂ <;> omega
  have high : b₂.toNat ≤ 0xBF ∧ (b₁.toNat = 0xF4 → b₂.toNat ≤ 0x8F) := by split at most₂ <;> omega
  have valid : Nat.isValidChar ((((b₁.toNat - 0xF0) * 64 + (b₂.toNat - 0x80)) * 64 + (b₃.toNat - 0x80)) * 64 +
      (b₄.toNat - 0x80)) := by
    unfold Nat.isValidChar
    omega
  unfold encodeChar String.utf8EncodeChar
  dsimp only
  rw [val_ofNat valid,if_neg (by omega),if_neg (by omega),if_neg (by omega),ofNat_eq b₁ (by omega),
    ofNat_eq b₂ (by omega),ofNat_eq b₃ (by omega),ofNat_eq b₄ (by omega)]

end Encoded

section Steps

variable {b : UInt8} {c : Char} {p q : Started}

/-- What a first byte begins, by the length of the character. -/
inductive Led (b : UInt8) : Lead → Prop where
  | one {c : Char} (small : b.toNat < 0x80) (char : c = Char.ofNat b.toNat) : Led b (.whole c)
  | two (least : 0xC2 ≤ b.toNat) (most : b.toNat < 0xE0) : Led b (.started ⟨1,b.toNat - 0xC0,0x80,0xBF,0⟩)
  | three (least : 0xE0 ≤ b.toNat) (most : b.toNat < 0xF0) : Led b
      (.started ⟨1,b.toNat - 0xE0,if b.toNat = 0xE0 then 0xA0 else 0x80,if b.toNat = 0xED then 0x9F else 0xBF,1⟩)
  | four (least : 0xF0 ≤ b.toNat) (most : b.toNat < 0xF5) : Led b
      (.started ⟨1,b.toNat - 0xF0,if b.toNat = 0xF0 then 0x90 else 0x80,if b.toNat = 0xF4 then 0x8F else 0xBF,2⟩)
  | other : Led b .none

theorem lead_led (b : UInt8) : Led b (lead b) := by
  have same : UInt8.ofNat b.toNat = b := UInt8.ofNat_toNat
  by_cases small : b.toNat < 0x80
  · have whole := lead_one small
    rw [same] at whole
    exact whole ▸ .one small rfl
  by_cases other : b.toNat < 0xC2
  · have nothing : lead b = .none := by simp [lead,UInt8.lt_iff_toNat_lt,small,other]
    exact nothing ▸ .other
  by_cases two : b.toNat < 0xE0
  · have started := lead_two (by omega) two
    rw [same] at started
    exact started ▸ .two (by omega) two
  by_cases three : b.toNat < 0xF0
  · have started := lead_three (by omega) three
    rw [same] at started
    exact started ▸ .three (by omega) three
  by_cases four : b.toNat < 0xF5
  · have started := lead_four (by omega) four
    rw [same] at started
    exact started ▸ .four (by omega) four
  · have nothing : lead b = .none := by simp [lead,UInt8.lt_iff_toNat_lt,small,other,two,three,four]
    exact nothing ▸ .other

/-- What a further byte makes of a started character, by the number of bytes that follow it. -/
inductive Nexts (p : Started) (b : UInt8) : Lead → Prop where
  | last {c : Char} (least : p.low.toNat ≤ b.toNat) (most : b.toNat ≤ p.high.toNat) (last : p.after = 0)
      (char : c = Char.ofNat (p.value * 64 + (b.toNat - 0x80))) : Nexts p b (.whole c)
  | more (k : Nat) (least : p.low.toNat ≤ b.toNat) (most : b.toNat ≤ p.high.toNat) (more : p.after = k + 1) :
      Nexts p b (.started ⟨p.seen + 1,p.value * 64 + (b.toNat - 0x80),0x80,0xBF,k⟩)
  | other : Nexts p b .none

theorem next_nexts (p : Started) (b : UInt8) : Nexts p b (p.next b) := by
  by_cases within : p.low ≤ b ∧ b ≤ p.high
  · have least := UInt8.le_iff_toNat_le.mp within.1
    have most := UInt8.le_iff_toNat_le.mp within.2
    rw [Started.next,if_pos within]
    cases after : p.after with
    | zero => exact .last least most after rfl
    | succ k => exact .more k least most after
  · rw [Started.next,if_neg within]
    exact .other

/-- The bytes that were read of a started character. -/
inductive Begun : Bytes → Started → Prop where
  | first {b : UInt8} {p : Started} (started : lead b = .started p) : Begun [b] p
  | more {seen : Bytes} {p q : Started} {b : UInt8} (begun : Begun seen p) (started : p.next b = .started q) :
      Begun (seen ++ [b]) q

theorem encodeChar_of_lead (whole : lead b = .whole c) : encodeChar c = [b] := by
  have led := lead_led b
  rw [whole] at led
  cases led with
  | one small char => rw [char,encodeChar_one small]

/-- As many bytes were read as the started character says, and no character is longer than four bytes. -/
theorem Begun.size {seen : Bytes} (begun : Begun seen p) : seen.length = p.seen ∧ 1 ≤ p.seen ∧ p.seen + p.after ≤ 3 := by
  induction begun with
  | @first b p started =>
    have led := lead_led b
    rw [started] at led
    cases led <;> exact ⟨rfl,by simp,by simp⟩
  | @more seen p q b begun started ih =>
    have nexts := next_nexts p b
    rw [started] at nexts
    cases nexts with
    | more k least most more =>
      obtain ⟨length,positive,size⟩ := ih
      refine ⟨by simp [length],Nat.le_add_left 1 p.seen,?_⟩
      dsimp only
      omega

theorem further (least : UInt8.toNat 0x80 ≤ b.toNat) (most : b.toNat ≤ UInt8.toNat 0xBF) :
    0x80 ≤ b.toNat ∧ b.toNat ≤ 0xBF := ⟨least,most⟩

/-- A character that is whole with the next byte is encoded by the bytes before it and that byte. -/
theorem Begun.encodeChar_of_next {seen : Bytes} (begun : Begun seen p) (whole : p.next b = .whole c) :
    encodeChar c = seen ++ [b] := by
  have nexts := next_nexts p b
  rw [whole] at nexts
  cases nexts with
  | last least most last char =>
  rw [char]
  -- By the number of bytes before the last one, from the shortest character to the longest.
  cases begun with
  | @first b₁ _ started =>
    have led := lead_led b₁
    rw [started] at led
    cases led with
    | two least₁ most₁ =>
      obtain ⟨least,most⟩ := further least most
      exact encodeChar_two least₁ most₁ least most
    | three => cases last
    | four => cases last
  | @more seen r _ b₂ begun started =>
  have nexts := next_nexts r b₂
  rw [started] at nexts
  cases nexts with
  | more k least₂ most₂ more =>
  obtain rfl : k = 0 := last
  obtain ⟨least,most⟩ := further least most
  cases begun with
  | @first b₁ _ started =>
    have led := lead_led b₁
    rw [started] at led
    cases led with
    | two => cases more
    | three least₁ most₁ =>
      simp only [apply_ite UInt8.toNat] at least₂ most₂
      exact encodeChar_three least₁ most₁ least₂ most₂ least most
    | four => cases more
  | @more seen r _ b₁ begun started =>
  have nexts := next_nexts r b₁
  rw [started] at nexts
  cases nexts with
  | more k least₁ most₁ after =>
  obtain rfl : k = 1 := more
  obtain ⟨least₂,most₂⟩ := further least₂ most₂
  cases begun with
  | @first b₀ _ started =>
    have led := lead_led b₀
    rw [started] at led
    cases led with
    | two => cases after
    | three => cases after
    | four least₀ most₀ =>
      simp only [apply_ite UInt8.toNat] at least₁ most₁
      exact encodeChar_four least₀ most₀ least₁ most₁ least₂ most₂ least most
  | more earlier started =>
    -- With two bytes before it there is no third one to come.
    obtain ⟨-,positive,-⟩ := earlier.size
    obtain ⟨length,-,size⟩ := (Begun.more earlier started).size
    rw [List.length_append,List.length_singleton,earlier.size.1] at length
    omega

end Steps

/-! ## Pieces -/

/-- The bytes of an item. -/
inductive Item.Of : Item → Bytes → Prop where
  | char (c : Char) : Of (.char c) (encodeChar c)
  | malformed {piece : Bytes} (nonempty : piece ≠ []) : Of (.malformed piece.length) piece
  | unfinished {piece : Bytes} (nonempty : piece ≠ []) : Of (.unfinished piece.length) piece

/-- The items stand for the bytes, piece by piece. -/
inductive Covered : List Item → Bytes → Prop where
  | nil : Covered [] []
  | cons {item : Item} {items : List Item} {piece rest : Bytes} (first : item.Of piece) (later : Covered items rest) :
      Covered (item :: items) (piece ++ rest)

theorem Begun.ne_nil {seen : Bytes} {p : Started} (begun : Begun seen p) : seen ≠ [] := by
  cases begun <;> simp

/-- The items of bytes stand for them; those after a started character stand for its bytes as well. Both are
    shown at once, since a byte may begin a character, continue one or break one off. -/
theorem itemsFrom_covered (bytes : Bytes) : Covered (itemsFrom none bytes) bytes ∧
    ∀ seen p, Begun seen p → Covered (itemsFrom (some p) bytes) (seen ++ bytes) := by
  induction bytes with
  | nil =>
    refine ⟨.nil,fun seen p begun => ?_⟩
    rw [itemsFrom,← begun.size.1]
    exact .cons (.unfinished begun.ne_nil) .nil
  | cons b rest ih =>
    obtain ⟨fresh,going⟩ := ih
    have start : Covered (itemsFrom none (b :: rest)) (b :: rest) := by
      cases begins : lead b with
      | whole c =>
        rw [itemsFrom_lead_whole begins,show b :: rest = [b] ++ rest from rfl,← encodeChar_of_lead begins]
        exact .cons (.char c) fresh
      | started p =>
        rw [itemsFrom_lead_started begins]
        exact going [b] p (.first begins)
      | none =>
        rw [itemsFrom_lead_none begins]
        exact .cons (.malformed (List.cons_ne_nil b [])) fresh
    refine ⟨start,fun seen p begun => ?_⟩
    -- A byte that does not continue the character ends a malformed piece and begins the next one.
    cases continued : p.next b with
    | whole c =>
      rw [itemsFrom_next_whole continued,List.append_cons,← begun.encodeChar_of_next continued]
      exact .cons (.char c) fresh
    | started q =>
      rw [itemsFrom_next_started continued,List.append_cons]
      exact going (seen ++ [b]) q (.more begun continued)
    | none =>
      rw [itemsFrom_next_none continued,← begun.size.1]
      exact .cons (.malformed begun.ne_nil) start

theorem items_covered (bytes : Bytes) : Covered (items bytes) bytes := (itemsFrom_covered bytes).1

theorem Covered.encodeChar_inside {items : List Item} {bytes : Bytes} {c : Char} (covered : Covered items bytes)
    (member : .char c ∈ items) : encodeChar c <:+: bytes := by
  induction covered with
  | nil => cases member
  | @cons item items piece rest first later ih =>
    rcases List.mem_cons.mp member with rfl | member
    · cases first
      exact (List.prefix_append (encodeChar c) rest).isInfix
    · exact (ih member).trans (List.suffix_append piece rest).isInfix

theorem items_of_charsOf {offset : Nat} {found : List Item} {cs : List Char} (chars : charsOf offset found = .ok cs) :
    found = cs.map .char := by
  induction found generalizing offset cs with
  | nil =>
    cases chars
    rfl
  | cons item rest ih =>
    cases item with
    | malformed n => cases chars
    | unfinished n => cases chars
    | char c =>
      rw [charsOf] at chars
      cases others : charsOf (offset + c.utf8Size) rest with
      | error f =>
        rw [others] at chars
        cases chars
      | ok ds =>
        rw [others] at chars
        cases chars
        rw [ih others,List.map_cons]

/-- Well-formed bytes are decoded to the same text in both ways. -/
theorem decodeLossy_of_decode? {bytes : Bytes} {text : String} (decoded : decode? bytes = .ok text) :
    decodeLossy bytes = text := by
  rw [decode?] at decoded
  cases chars : charsOf 0 (items bytes) with
  | error f =>
    rw [chars] at decoded
    cases decoded
  | ok cs =>
    rw [chars] at decoded
    cases decoded
    rw [decodeLossy,items_of_charsOf chars,map_shown_chars]

theorem decodeLossy_ne_empty {bytes : Bytes} (nonempty : bytes ≠ []) : decodeLossy bytes ≠ "" := by
  intro empty
  have noItems : (items bytes).map Item.shown = [] := by
    have same := congrArg String.toList empty
    rwa [decodeLossy,String.toList_ofList] at same
  have covered := items_covered bytes
  rw [List.map_eq_nil_iff.mp noItems] at covered
  cases covered
  exact nonempty rfl

/-- A character of ASCII in decoded text is one of the bytes. -/
theorem mem_of_mem_decodeLossy {bytes : Bytes} {c : Char} (ascii : c.toNat < 0x80)
    (member : c ∈ (decodeLossy bytes).toList) : UInt8.ofNat c.toNat ∈ bytes := by
  rw [decodeLossy,String.toList_ofList] at member
  obtain ⟨item,among,shown⟩ := List.mem_map.mp member
  have other : replacement ≠ c := by
    rintro rfl
    exact absurd ascii (by decide)
  cases item with
  | malformed n => exact absurd shown other
  | unfinished n => exact absurd shown other
  | char d =>
    obtain rfl : d = c := shown
    have inside := (items_covered bytes).encodeChar_inside among
    rw [encodeChar_ascii ascii] at inside
    exact inside.subset (List.mem_singleton.mpr rfl)

end TabCompletion.Utf8
