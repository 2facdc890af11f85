import TabCompletion.Probe
import TabCompletion.Proofs.Text.Decoding

/-!
# Well-formed bytes

Both ways to decode read the longest well-formed start of the bytes as the same text (`Parted`). Strict decoding
stops there and says where that is; lossy decoding goes on with U+FFFD (`decoding_agrees`).
-/
namespace TabCompletion.Utf8

/-- The bytes are UTF-8 of some text. -/
def WellFormed (bytes : Bytes) : Prop := bytes.toByteArray.IsValidUTF8

variable {bytes rest : Bytes} {cs ds : List Char}

theorem wellFormed_iff : WellFormed bytes ↔ ∃ s, encode s = bytes := by
  constructor
  · rintro ⟨cs,encoded⟩
    refine ⟨String.ofList cs,?_⟩
    rw [encode,String.toList_ofList]
    exact (List.toByteArray_inj.mp encoded).symm
  · rintro ⟨s,rfl⟩
    exact ⟨s.toList,rfl⟩

/-- Bytes parted before their first malformed piece. -/
structure Parted (bytes : Bytes) (cs : List Char) (rest : Bytes) : Prop where
  whole : bytes = encodeChars cs ++ rest
  stops : ∀ c later, items rest ≠ .char c :: later

theorem exists_chars (found : List Item) : ∃ (cs : List Char) (later : List Item), found = cs.map .char ++ later ∧ ∀ c others, later ≠ .char c :: others := by
  induction found with
  | nil => exact ⟨[],[],rfl,fun c others => by simp⟩
  | cons item rest ih =>
    cases item with
    | char c =>
      obtain ⟨cs,later,split,stops⟩ := ih
      exact ⟨c :: cs,later,congrArg (.char c :: ·) split,stops⟩
    | malformed n => exact ⟨[],_,rfl,fun c others => by simp⟩
    | unfinished n => exact ⟨[],_,rfl,fun c others => by simp⟩

theorem Covered.of_chars {later : List Item} (covered : Covered (cs.map .char ++ later) bytes) :
    ∃ rest, bytes = encodeChars cs ++ rest := by
  induction cs generalizing bytes with
  | nil => exact ⟨bytes,rfl⟩
  | cons c cs ih =>
    cases covered with
    | cons first others =>
      obtain ⟨rest,rfl⟩ := ih others
      cases first
      exact ⟨rest,by rw [encodeChars_cons,List.append_assoc]⟩

theorem exists_parted (bytes : Bytes) : ∃ cs rest, Parted bytes cs rest := by
  obtain ⟨cs,later,split,stops⟩ := exists_chars (items bytes)
  have covered := items_covered bytes
  rw [split] at covered
  obtain ⟨rest,rfl⟩ := covered.of_chars
  rw [items_encodeChars_append] at split
  refine ⟨cs,rest,rfl,?_⟩
  rwa [List.append_cancel_left split]

/-- No longer start of the bytes is well-formed. -/
theorem Parted.longest (parted : Parted bytes cs rest) (start : encodeChars ds <+: bytes) : encodeChars ds <+: encodeChars cs := by
  obtain ⟨more,whole⟩ := start
  have same : ds.map Item.char ++ items more = cs.map Item.char ++ items rest := by
    rw [← items_encodeChars_append,whole,parted.whole,items_encodeChars_append]
  have stops := parted.stops
  clear whole parted
  suffices shorter : ds <+: cs by
    obtain ⟨others,rfl⟩ := shorter
    rw [encodeChars_append]
    exact List.prefix_append _ _
  induction ds generalizing cs with
  | nil => exact List.nil_prefix
  | cons d ds ih =>
    cases cs with
    | nil => exact absurd same.symm (stops d _)
    | cons c cs =>
      rw [List.map_cons,List.map_cons,List.cons_append,List.cons_append,List.cons.injEq,Item.char.injEq] at same
      obtain ⟨rfl,same⟩ := same
      exact List.cons_prefix_cons.mpr ⟨rfl,ih same⟩

theorem Parted.take (parted : Parted bytes cs rest) : bytes.take (encodeChars cs).length = encodeChars cs := by
  rw [parted.whole,List.take_left]

theorem Parted.le_of_wellFormed (parted : Parted bytes cs rest) (nonempty : rest ≠ []) {n : Nat}
    (wellFormed : WellFormed (bytes.take n)) : n ≤ (encodeChars cs).length := by
  obtain ⟨s,same⟩ := wellFormed_iff.mp wellFormed
  have start : encodeChars s.toList = bytes.take n := same
  have shorter := (parted.longest (start ▸ List.take_prefix n bytes)).length_le
  have proper : (encodeChars cs).length < bytes.length := by
    have positive := List.length_pos_of_ne_nil nonempty
    rw [parted.whole,List.length_append]
    omega
  rw [start,List.length_take] at shorter
  omega

theorem items_ne_nil (nonempty : bytes ≠ []) : items bytes ≠ [] := by
  intro noItems
  have covered := items_covered bytes
  rw [noItems] at covered
  cases covered
  exact nonempty rfl

/-- After the well-formed start there is a malformed piece, or nothing. -/
theorem Parted.items_rest (parted : Parted bytes cs rest) (nonempty : rest ≠ []) : ∃ item later, items rest = item :: later ∧
    item.shown = replacement ∧ ∀ offset, ∃ malformed, charsOf offset (item :: later) = .error ⟨offset,malformed⟩ := by
  obtain ⟨item,later,found⟩ := List.exists_cons_of_ne_nil (items_ne_nil nonempty)
  refine ⟨item,later,found,?_⟩
  cases item with
  | char c => exact absurd found (parted.stops c later)
  | malformed n => exact ⟨rfl,fun offset => ⟨_,rfl⟩⟩
  | unfinished n => exact ⟨rfl,fun offset => ⟨_,rfl⟩⟩

/-! ## Decoding -/

theorem charsOf_append (offset : Nat) (cs : List Char) (later : List Item) : charsOf offset (cs.map .char ++ later) =
    (charsOf (offset + (encodeChars cs).length) later).map (cs ++ ·) := by
  induction cs generalizing offset with
  | nil =>
    rw [encodeChars_nil,List.length_nil,Nat.add_zero,List.map_nil,List.nil_append]
    cases charsOf offset later <;> rfl
  | cons c cs ih =>
    have size : (encodeChar c).length = c.utf8Size := String.length_utf8EncodeChar c
    rw [List.map_cons,List.cons_append,charsOf,ih,encodeChars_cons,List.length_append,size,Nat.add_assoc]
    cases charsOf (offset + (c.utf8Size + (encodeChars cs).length)) later <;> rfl

theorem Parted.decode?_error (parted : Parted bytes cs rest) (nonempty : rest ≠ []) :
    ∃ malformed, decode? bytes = .error ⟨(encodeChars cs).length,malformed⟩ := by
  obtain ⟨item,later,found,-,fails⟩ := parted.items_rest nonempty
  obtain ⟨malformed,failed⟩ := fails (0 + (encodeChars cs).length)
  refine ⟨malformed,?_⟩
  rw [decode?,parted.whole,items_encodeChars_append,found,charsOf_append,failed,Nat.zero_add]
  rfl

/-- Well-formed bytes are decoded without regard to what follows. -/
theorem decodeLossy_encodeChars_append (cs : List Char) (rest : Bytes) :
    decodeLossy (encodeChars cs ++ rest) = String.ofList cs ++ decodeLossy rest := by
  rw [decodeLossy,items_encodeChars_append,List.map_append,map_shown_chars,String.ofList_append,decodeLossy]

theorem Parted.decodeLossy_rest (parted : Parted bytes cs rest) (nonempty : rest ≠ []) :
    ∃ others, decodeLossy bytes = String.ofList cs ++ "\uFFFD" ++ others := by
  obtain ⟨item,later,found,shown,-⟩ := parted.items_rest nonempty
  refine ⟨String.ofList (later.map Item.shown),?_⟩
  have first : String.ofList ([replacement] ++ later.map Item.shown) = "\uFFFD" ++ String.ofList (later.map Item.shown) :=
    String.ofList_append
  rw [parted.whole,decodeLossy_encodeChars_append,decodeLossy,found,List.map_cons,shown,String.append_assoc]
  exact congrArg _ first

end TabCompletion.Utf8

namespace TabCompletion

open Utf8

variable {bytes : Bytes}

/-- The bytes of text are decoded to the text, however strict the encoding is. -/
theorem decode_encodeChars (mode : EncodingMode) (cs : List Char) : mode.decode (encodeChars cs) = .ok (String.ofList cs) := by
  unfold EncodingMode.decode
  cases mode with
  | lossy => dsimp only; rw [decodeLossy_encodeChars]
  | strict => dsimp only; rw [decode?_encodeChars]

theorem decode_encode (mode : EncodingMode) (s : String) : mode.decode (encode s) = .ok s := by
  rw [encode,decode_encodeChars,String.ofList_toList]

/-- Strict decoding stops where the well-formed start of the bytes ends. -/
theorem strict_error {e : HarnessError} (failed : EncodingMode.strict.decode bytes = .error e) :
    ∃ cs rest source, Parted bytes cs rest ∧ rest ≠ [] ∧
      e = .terminalParse "terminal output was not valid UTF-8" source (encodeChars cs).length := by
  obtain ⟨cs,rest,parted⟩ := exists_parted bytes
  have nonempty : rest ≠ [] := by
    rintro rfl
    rw [parted.whole,List.append_nil,decode_encodeChars] at failed
    cases failed
  obtain ⟨malformed,stopped⟩ := parted.decode?_error nonempty
  rw [EncodingMode.decode,stopped] at failed
  cases failed
  exact ⟨cs,rest,_,parted,nonempty,rfl⟩

theorem strict_eq_ok_iff {text : String} : EncodingMode.strict.decode bytes = .ok text ↔ encode text = bytes := by
  constructor
  · intro decoded
    obtain ⟨cs,rest,parted⟩ := exists_parted bytes
    by_cases ends : rest = []
    · have whole : bytes = encodeChars cs := by rw [parted.whole,ends,List.append_nil]
      rw [whole,decode_encodeChars] at decoded
      cases decoded
      rw [encode,String.toList_ofList,whole]
    · obtain ⟨malformed,stopped⟩ := parted.decode?_error ends
      rw [EncodingMode.decode,stopped] at decoded
      cases decoded
  · rintro rfl
    exact decode_encode .strict text

/-- Strict decoding takes just the well-formed bytes, and both ways to decode give their text, which is encoded
    by them. Otherwise the error names the length of the longest well-formed start of the bytes, and lossy
    decoding gives the text of that start and then U+FFFD. Lossy decoding makes something of all bytes, and
    well-formed bytes are decoded on their own, whatever follows them. -/
theorem decoding_agrees (b : Bytes) :
    ((∃ text, EncodingMode.strict.decode b = .ok text) ↔ WellFormed b) ∧
    (∀ text, EncodingMode.strict.decode b = .ok text → encode text = b ∧ EncodingMode.lossy.decode b = .ok text) ∧
    (∀ (mode : EncodingMode) (s : String), mode.decode (encode s) = .ok s) ∧
    (∀ e, EncodingMode.strict.decode b = .error e → ∃ (source : String) (validUpTo : Nat),
      e.code = .terminalParse ∧
      e.context = some (Json.table [("source", .str source),("valid_up_to", .nat validUpTo)]) ∧
      WellFormed (b.take validUpTo) ∧ (∀ n, WellFormed (b.take n) → n ≤ validUpTo) ∧
      ∃ start others, EncodingMode.strict.decode (b.take validUpTo) = .ok start ∧
        EncodingMode.lossy.decode b = .ok (start ++ "\uFFFD" ++ others)) ∧
    (b ≠ [] → EncodingMode.lossy.decode b ≠ .ok "") ∧
    (WellFormed b → ∀ c, ∃ text rest, EncodingMode.lossy.decode b = .ok text ∧ EncodingMode.lossy.decode c = .ok rest ∧
      EncodingMode.lossy.decode (b ++ c) = .ok (text ++ rest)) := by
  refine ⟨(exists_congr fun _ => strict_eq_ok_iff).trans wellFormed_iff.symm,?_,decode_encode,?_,?_,?_⟩
  · intro text decoded
    obtain rfl := strict_eq_ok_iff.mp decoded
    exact ⟨rfl,decode_encode .lossy text⟩
  · intro e failed
    obtain ⟨cs,rest,source,parted,nonempty,rfl⟩ := strict_error failed
    obtain ⟨others,lossy⟩ := parted.decodeLossy_rest nonempty
    have start : EncodingMode.strict.decode (b.take (encodeChars cs).length) = .ok (String.ofList cs) := by
      rw [parted.take]
      exact decode_encodeChars .strict cs
    refine ⟨source,(encodeChars cs).length,rfl,rfl,?_,?_,String.ofList cs,others,start,congrArg Except.ok lossy⟩
    · exact wellFormed_iff.mpr ⟨_,strict_eq_ok_iff.mp start⟩
    · intro n wellFormed
      exact parted.le_of_wellFormed nonempty wellFormed
  · intro nonempty empty
    exact decodeLossy_ne_empty nonempty (Except.ok.inj empty)
  · intro wellFormed c
    obtain ⟨s,rfl⟩ := wellFormed_iff.mp wellFormed
    have both := decodeLossy_encodeChars_append s.toList c
    rw [String.ofList_toList] at both
    exact ⟨s,Utf8.decodeLossy c,decode_encode .lossy s,rfl,congrArg Except.ok both⟩

end TabCompletion
