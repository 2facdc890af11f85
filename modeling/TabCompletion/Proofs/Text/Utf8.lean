import TabCompletion.Text.Utf8

/-!
# Text in UTF-8 and back

The bytes of text are read as its characters (`items_encodeChars`), by one lemma for each length that a
character may have in UTF-8. So both ways to decode give the text back.
-/
namespace TabCompletion.Utf8

section Lead

variable {n : Nat}

theorem toNat_ofNat (small : n < 256) : (UInt8.ofNat n).toNat = n := by
  simp [Nat.mod_eq_of_lt small]

theorem lead_one (small : n < 0x80) : lead (UInt8.ofNat n) = .whole (Char.ofNat n) := by
  simp [lead,UInt8.lt_iff_toNat_lt,toNat_ofNat (show n < 256 by omega),small]

theorem lead_two (least : 0xC2 ≤ n) (most : n < 0xE0) :
    lead (UInt8.ofNat n) = .started ⟨1,n - 0xC0,0x80,0xBF,0⟩ := by
  simp [lead,UInt8.lt_iff_toNat_lt,toNat_ofNat (show n < 256 by omega),show ¬n < 0x80 by omega,show ¬n < 0xC2 by omega,most]

theorem lead_three (least : 0xE0 ≤ n) (most : n < 0xF0) : lead (UInt8.ofNat n) =
    .started ⟨1,n - 0xE0,if n = 0xE0 then 0xA0 else 0x80,if n = 0xED then 0x9F else 0xBF,1⟩ := by
  simp [lead,UInt8.lt_iff_toNat_lt,← UInt8.toNat_inj,toNat_ofNat (show n < 256 by omega),show ¬n < 0x80 by omega,
    show ¬n < 0xC2 by omega,show ¬n < 0xE0 by omega,most]

theorem lead_four (least : 0xF0 ≤ n) (most : n < 0xF5) : lead (UInt8.ofNat n) =
    .started ⟨1,n - 0xF0,if n = 0xF0 then 0x90 else 0x80,if n = 0xF4 then 0x8F else 0xBF,2⟩ := by
  simp [lead,UInt8.lt_iff_toNat_lt,← UInt8.toNat_inj,toNat_ofNat (show n < 256 by omega),show ¬n < 0x80 by omega,
    show ¬n < 0xC2 by omega,show ¬n < 0xE0 by omega,show ¬n < 0xF0 by omega,most]

end Lead

section Next

variable {p : Started} {n k : Nat}

theorem next_last (least : p.low.toNat ≤ n) (most : n ≤ p.high.toNat) (last : p.after = 0) :
    p.next (UInt8.ofNat n) = .whole (Char.ofNat (p.value * 64 + (n - 0x80))) := by
  have small : n < 256 := by have := p.high.toNat_lt; omega
  simp [Started.next,UInt8.le_iff_toNat_le,toNat_ofNat small,least,most,last]

theorem next_more (least : p.low.toNat ≤ n) (most : n ≤ p.high.toNat) (more : p.after = k + 1) :
    p.next (UInt8.ofNat n) = .started ⟨p.seen + 1,p.value * 64 + (n - 0x80),0x80,0xBF,k⟩ := by
  have small : n < 256 := by have := p.high.toNat_lt; omega
  simp [Started.next,UInt8.le_iff_toNat_le,toNat_ofNat small,least,most,more]

/-! After some first bytes the range of the next byte begins later, or ends earlier. -/

theorem toNat_ite_le {edge : Prop} [Decidable edge] {low other : UInt8} (later : edge → low.toNat ≤ n)
    (always : other.toNat ≤ n) : (if edge then low else other).toNat ≤ n := by
  split
  next there => exact later there
  next => exact always

theorem le_toNat_ite {edge : Prop} [Decidable edge] {high other : UInt8} (earlier : edge → n ≤ high.toNat)
    (always : n ≤ other.toNat) : n ≤ (if edge then high else other).toNat := by
  split
  next there => exact earlier there
  next => exact always

end Next

section Steps

variable {b : UInt8} {rest : Bytes} {c : Char} {p q : Started}

/-- The items from a first byte on, by what it begins. -/
theorem itemsFrom_first (b : UInt8) (rest : Bytes) : itemsFrom none (b :: rest) =
    match lead b with
    | .whole c => .char c :: itemsFrom none rest
    | .started p => itemsFrom (some p) rest
    | .none => .malformed 1 :: itemsFrom none rest := rfl

/-- The items of a started character and the bytes after it: one that does not continue it is a first byte. -/
theorem itemsFrom_further (p : Started) (b : UInt8) (rest : Bytes) : itemsFrom (some p) (b :: rest) =
    match p.next b with
    | .whole c => .char c :: itemsFrom none rest
    | .started q => itemsFrom (some q) rest
    | .none => .malformed p.seen :: itemsFrom none (b :: rest) := rfl

theorem itemsFrom_lead_whole (whole : lead b = .whole c) : itemsFrom none (b :: rest) = .char c :: itemsFrom none rest := by
  rw [itemsFrom_first,whole]

theorem itemsFrom_lead_started (started : lead b = .started p) : itemsFrom none (b :: rest) = itemsFrom (some p) rest := by
  rw [itemsFrom_first,started]

theorem itemsFrom_lead_none (nothing : lead b = .none) :
    itemsFrom none (b :: rest) = .malformed 1 :: itemsFrom none rest := by
  rw [itemsFrom_first,nothing]

theorem itemsFrom_next_whole (whole : p.next b = .whole c) :
    itemsFrom (some p) (b :: rest) = .char c :: itemsFrom none rest := by
  rw [itemsFrom_further,whole]

theorem itemsFrom_next_started (started : p.next b = .started q) :
    itemsFrom (some p) (b :: rest) = itemsFrom (some q) rest := by
  rw [itemsFrom_further,started]

theorem itemsFrom_next_none (nothing : p.next b = .none) :
    itemsFrom (some p) (b :: rest) = .malformed p.seen :: itemsFrom none (b :: rest) := by
  rw [itemsFrom_further,nothing]

end Steps

/-- The bytes of a character are read as the character. -/
theorem itemsFrom_encodeChar (c : Char) (rest : Bytes) :
    itemsFrom none (encodeChar c ++ rest) = .char c :: itemsFrom none rest := by
  have valid : c.val.toNat < 0xD800 ∨ 0xDFFF < c.val.toNat ∧ c.val.toNat < 0x110000 := c.valid
  have back {n : Nat} (same : n = c.val.toNat) : Char.ofNat n = c := by rw [same]; exact Char.ofNat_toNat c
  unfold encodeChar String.utf8EncodeChar
  dsimp only
  generalize c.val.toNat = v at *
  split
  next one =>
    rw [List.cons_append,itemsFrom_lead_whole (lead_one (by omega)),back rfl,List.nil_append]
  next big =>
  split
  next two =>
    rw [List.cons_append,itemsFrom_lead_started (lead_two (by omega) (by omega)),List.cons_append,
      itemsFrom_next_whole (next_last (show 128 ≤ _ by omega) (show _ ≤ 191 by omega) rfl),List.nil_append]
    rw [back (by dsimp only; omega)]
  next bigger =>
  split
  next three =>
    rw [List.cons_append,itemsFrom_lead_started (lead_three (by omega) (by omega)),List.cons_append,List.cons_append,
      itemsFrom_next_started (next_more (toNat_ite_le (fun overlong => show 160 ≤ _ by omega) (show 128 ≤ _ by omega))
        (le_toNat_ite (fun surrogates => show _ ≤ 159 by omega) (show _ ≤ 191 by omega)) rfl),
      itemsFrom_next_whole (next_last (show 128 ≤ _ by omega) (show _ ≤ 191 by omega) rfl),List.nil_append]
    rw [back (by dsimp only; omega)]
  next biggest =>
    rw [List.cons_append,itemsFrom_lead_started (lead_four (by omega) (by omega)),List.cons_append,List.cons_append,
      List.cons_append,
      itemsFrom_next_started (next_more (toNat_ite_le (fun overlong => show 144 ≤ _ by omega) (show 128 ≤ _ by omega))
        (le_toNat_ite (fun beyond => show _ ≤ 143 by omega) (show _ ≤ 191 by omega)) rfl),
      itemsFrom_next_started (next_more (show 128 ≤ _ by omega) (show _ ≤ 191 by omega) rfl),
      itemsFrom_next_whole (next_last (show 128 ≤ _ by omega) (show _ ≤ 191 by omega) rfl),List.nil_append]
    rw [back (by dsimp only; omega)]

theorem items_encodeChars_append (cs : List Char) (rest : Bytes) :
    items (encodeChars cs ++ rest) = cs.map .char ++ items rest := by
  unfold items encodeChars
  induction cs with
  | nil => rfl
  | cons c cs ih =>
    rw [List.flatMap_cons,List.append_assoc,itemsFrom_encodeChar,ih,List.map_cons,List.cons_append]

theorem items_encodeChars (cs : List Char) : items (encodeChars cs) = cs.map .char := by
  have read := items_encodeChars_append cs []
  rwa [List.append_nil,show items [] = [] from rfl,List.append_nil] at read

/-! ## Decoding -/

theorem charsOf_chars (offset : Nat) (cs : List Char) : charsOf offset (cs.map .char) = .ok cs := by
  induction cs generalizing offset with
  | nil => rfl
  | cons c rest ih => rw [List.map_cons,charsOf,ih]

theorem decode?_encodeChars (cs : List Char) : decode? (encodeChars cs) = .ok (String.ofList cs) := by
  rw [decode?,items_encodeChars,charsOf_chars]

/-- The bytes of text tell the text. -/
theorem encodeChars_inj {xs ys : List Char} : encodeChars xs = encodeChars ys ↔ xs = ys := by
  refine ⟨fun same => ?_,congrArg encodeChars⟩
  have text : (.ok (String.ofList xs) : Except Fault String) = .ok (String.ofList ys) := by
    rw [← decode?_encodeChars,same,decode?_encodeChars]
  exact String.ofList_inj.mp (Except.ok.inj text)

theorem map_shown_chars (cs : List Char) : (cs.map .char).map Item.shown = cs := by
  have shown : Item.shown ∘ Item.char = id := rfl
  rw [List.map_map,shown,List.map_id]

theorem decodeLossy_encodeChars (cs : List Char) : decodeLossy (encodeChars cs) = String.ofList cs := by
  rw [decodeLossy,items_encodeChars,map_shown_chars]

/-- A text has as many bytes as its size says. -/
theorem length_encode (s : String) : (encode s).length = s.utf8ByteSize := by
  rw [String.utf8ByteSize,← String.utf8Encode_toList,List.utf8Encode,List.size_toByteArray]
  rfl

/-- A character of ASCII is one byte. -/
theorem encodeChar_ascii {c : Char} (ascii : c.toNat < 0x80) : encodeChar c = [UInt8.ofNat c.toNat] := by
  unfold encodeChar String.utf8EncodeChar
  exact if_pos (Nat.le_of_lt_succ ascii)

/-- A byte of ASCII among those of a character is the character. -/
theorem toNat_of_mem_encodeChar {b : UInt8} {c : Char} (ascii : b.toNat < 0x80) (member : b ∈ encodeChar c) :
    c.toNat = b.toNat := by
  have above {n : Nat} (high : 0x80 ≤ n) (small : n < 256) (same : b = UInt8.ofNat n) : False := by
    rw [same,toNat_ofNat small] at ascii
    omega
  have same : c.val.toNat = c.toNat := rfl
  unfold encodeChar String.utf8EncodeChar at member
  dsimp only at member
  rw [same] at member
  split at member
  next one => rw [List.mem_singleton.mp member,toNat_ofNat (by omega)]
  next =>
    simp only [apply_ite (b ∈ ·),List.mem_cons,List.not_mem_nil,or_false] at member
    split at member
    · rcases member with same | same <;> exact (above (by omega) (by omega) same).elim
    split at member
    · rcases member with same | same | same <;> exact (above (by omega) (by omega) same).elim
    · rcases member with same | same | same | same <;> exact (above (by omega) (by omega) same).elim

@[simp] theorem encodeChars_nil : encodeChars [] = [] := rfl

@[simp] theorem encodeChars_append (xs ys : List Char) : encodeChars (xs ++ ys) = encodeChars xs ++ encodeChars ys :=
  List.flatMap_append

theorem encodeChars_cons (c : Char) (cs : List Char) : encodeChars (c :: cs) = encodeChar c ++ encodeChars cs := rfl

/-- A byte of ASCII in the bytes of a text is a character of the text. -/
theorem mem_of_mem_encodeChars {b : UInt8} {cs : List Char} (ascii : b.toNat < 0x80) (member : b ∈ encodeChars cs) :
    Char.ofNat b.toNat ∈ cs := by
  obtain ⟨c,among,inside⟩ := List.mem_flatMap.mp member
  rw [← toNat_of_mem_encodeChar ascii inside,Char.ofNat_toNat]
  exact among

end TabCompletion.Utf8
