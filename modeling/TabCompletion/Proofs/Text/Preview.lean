import TabCompletion.Proofs.Pattern.Texts
import TabCompletion.Proofs.Text.WellFormed

/-!
# The end of an output in a message

A message shows the last bytes of an output as text. Where they begin inside a character, what is left of it is
at most three bytes, each shown as U+FFFD, and the text after it is all that fits (`Cut`, `preview_shows_end`).
-/
namespace TabCompletion.Utf8

open Pattern.Cursor (isContinuation)

variable {bytes front rest : Bytes} {cs later : List Char} {b : UInt8} {n : Nat}

theorem Item.Of.ne_nil {item : Item} {piece : Bytes} (stands : item.Of piece) : piece ≠ [] := by
  cases stands with
  | char c =>
    obtain ⟨b,rest,is,-⟩ := encodeChar_eq_cons c
    exact is ▸ List.cons_ne_nil b rest
  | malformed nonempty => exact nonempty
  | unfinished nonempty => exact nonempty

/-- Text has no more characters than the bytes it is made of. -/
theorem Covered.length_le {items : List Item} (covered : Covered items bytes) : items.length ≤ bytes.length := by
  induction covered with
  | nil => exact Nat.le_refl 0
  | cons first later ih =>
    have positive := List.length_pos_iff.mpr first.ne_nil
    rw [List.length_cons,List.length_append]
    omega

theorem length_decodeLossy_le (bytes : Bytes) : (decodeLossy bytes).length ≤ bytes.length := by
  rw [decodeLossy,String.length_ofList,List.length_map]
  exact (items_covered bytes).length_le

theorem lead_of_isContinuation (continues : isContinuation b = true) : lead b = .none := by
  simp only [isContinuation,Bool.and_eq_true,decide_eq_true_eq] at continues
  have least := UInt8.le_iff_toNat_le.mp continues.1
  have most := UInt8.lt_iff_toNat_lt.mp continues.2
  have high : ¬b.toNat < UInt8.toNat 0x80 := Nat.not_lt.mpr least
  have low : b.toNat < UInt8.toNat 0xC2 := Nat.lt_trans most (by decide)
  rw [lead,if_neg (mt UInt8.lt_iff_toNat_lt.mp high),if_pos (UInt8.lt_iff_toNat_lt.mpr low)]

theorem items_continuations (continues : ∀ b ∈ front, isContinuation b = true) (rest : Bytes) :
    items (front ++ rest) = List.replicate front.length (.malformed 1) ++ items rest := by
  induction front with
  | nil => rfl
  | cons b front ih =>
    obtain ⟨first,others⟩ := List.forall_mem_cons.mp continues
    rw [List.cons_append,items,itemsFrom_lead_none (lead_of_isContinuation first)]
    exact congrArg (.malformed 1 :: ·) (ih others)

/-- Bytes that continue a character which does not begin are shown one by one. -/
theorem decodeLossy_continuations (continues : ∀ b ∈ front, isContinuation b = true) (cs : List Char) :
    decodeLossy (front ++ encodeChars cs) = String.ofList (List.replicate front.length replacement ++ cs) := by
  rw [decodeLossy,items_continuations continues,List.map_append,List.map_replicate,items_encodeChars,map_shown_chars]
  rfl

/-- The bytes of text from some place on: what is left of a character, and the text after it. -/
structure Cut (cs : List Char) (n : Nat) (front : Bytes) (later : List Char) : Prop where
  bytes : (encodeChars cs).drop n = front ++ encodeChars later
  continues : ∀ b ∈ front, isContinuation b = true
  inside : cs = later ∧ front = [] ∨ ∃ earlier c, cs = earlier ++ c :: later ∧ front.length < (encodeChar c).length

theorem exists_cut (cs : List Char) (n : Nat) : ∃ front later, Cut cs n front later := by
  induction cs generalizing n with
  | nil => exact ⟨[],[],List.drop_nil,List.forall_mem_nil _,.inl ⟨rfl,rfl⟩⟩
  | cons c cs ih =>
    by_cases start : n = 0
    · subst start
      exact ⟨[],c :: cs,rfl,List.forall_mem_nil _,.inl ⟨rfl,rfl⟩⟩
    by_cases within : n < (encodeChar c).length
    · refine ⟨(encodeChar c).drop n,cs,?_,?_,.inr ⟨[],c,rfl,?_⟩⟩
      · rw [encodeChars_cons,List.drop_append_of_le_length (Nat.le_of_lt within)]
      · obtain ⟨k,rfl⟩ := Nat.exists_eq_succ_of_ne_zero start
        obtain ⟨b,rest,is,-,continues⟩ := encodeChar_eq_cons c
        rw [is,List.drop_succ_cons]
        exact fun b' member => continues b' (List.mem_of_mem_drop member)
      · rw [List.length_drop]
        omega
    · obtain ⟨front,later,cut⟩ := ih (n - (encodeChar c).length)
      refine ⟨front,later,?_,cut.continues,.inr ?_⟩
      · rw [encodeChars_cons,List.drop_append,List.drop_eq_nil_of_le (Nat.le_of_not_lt within),List.nil_append,cut.bytes]
      · rcases cut.inside with ⟨rfl,rfl⟩ | ⟨earlier,d,rfl,shorter⟩
        · obtain ⟨b,rest,is,-⟩ := encodeChar_eq_cons c
          exact ⟨[],c,rfl,by rw [is,List.length_cons]; exact Nat.zero_lt_succ _⟩
        · exact ⟨c :: earlier,d,rfl,shorter⟩

theorem Cut.length_le (cut : Cut cs n front later) : front.length ≤ 3 := by
  rcases cut.inside with ⟨-,rfl⟩ | ⟨earlier,c,-,shorter⟩
  · exact Nat.zero_le 3
  · have size : (encodeChar c).length = c.utf8Size := String.length_utf8EncodeChar c
    have most := c.utf8Size_le_four
    omega

theorem Cut.suffix (cut : Cut cs n front later) : later <:+ cs := by
  rcases cut.inside with ⟨rfl,-⟩ | ⟨earlier,c,rfl,-⟩
  · exact List.suffix_refl cs
  · exact (List.suffix_cons c later).trans (List.suffix_append earlier _)

/-- Text does not begin inside a character. -/
theorem takeWhile_encodeChars (cs : List Char) : (encodeChars cs).takeWhile isContinuation = [] := by
  cases cs with
  | nil => rfl
  | cons c cs =>
    obtain ⟨b,rest,is,begins,-⟩ := encodeChar_eq_cons c
    rw [encodeChars_cons,is,List.cons_append,List.takeWhile_cons_of_neg (by simp [begins])]

theorem Cut.takeWhile (cut : Cut cs n front later) : ((encodeChars cs).drop n).takeWhile isContinuation = front := by
  rw [cut.bytes,List.takeWhile_append_of_pos cut.continues,takeWhile_encodeChars,List.append_nil]

/-- No text at the end is longer and has no more bytes. -/
theorem Cut.longest {text : List Char} (cut : Cut cs n front later) (ends : text <:+ cs)
    (fits : (encodeChars text).length ≤ (front ++ encodeChars later).length) : text <:+ later := by
  refine List.suffix_of_suffix_length_le ends cut.suffix (Nat.le_of_not_lt fun longer => ?_)
  rcases cut.inside with ⟨rfl,-⟩ | ⟨earlier,c,rfl,shorter⟩
  · exact absurd ends.length_le (Nat.not_le_of_lt longer)
  -- A longer text has the whole character whose last bytes are in front.
  obtain ⟨more,rfl⟩ := List.suffix_of_suffix_length_le (List.suffix_append earlier (c :: later)) ends longer
  rw [encodeChars_append,encodeChars_cons] at fits
  simp only [List.length_append] at fits
  omega

/-- A message shows at most two hundred characters of an output: its last two hundred bytes as text, or all of them
    if there are no more. Of an output that is text it shows all of the end that fits into as many bytes, and before
    it U+FFFD for each byte that is left of a character that does not. -/
theorem preview_shows_end :
    (∀ bytes : Bytes, (preview bytes).length ≤ 200 ∧
      ∃ earlier shown, bytes = earlier ++ shown ∧ shown.length = min 200 bytes.length ∧ preview bytes = decodeLossy shown) ∧
    ∀ s : String, ∃ (k : Nat) (earlier later : String), s = earlier ++ later ∧
      preview (encode s) = String.ofList (List.replicate k '\uFFFD') ++ later ∧ k ≤ 3 ∧
      k = (((encode s).drop ((encode s).length - 200)).takeWhile isContinuation).length ∧
      ((encode s).length ≤ 200 → k = 0) ∧
      (encode later).length ≤ 200 ∧
      ∀ text : String, text.toList <:+ s.toList → (encode text).length ≤ 200 → text.toList <:+ later.toList := by
  refine ⟨fun bytes => ?_,fun s => ?_⟩
  · have size : (bytes.drop (bytes.length - 200)).length = min 200 bytes.length := by
      rw [List.length_drop]
      omega
    refine ⟨?_,bytes.take (bytes.length - 200),_,(List.take_append_drop _ _).symm,size,rfl⟩
    have fits := length_decodeLossy_le (bytes.drop (bytes.length - 200))
    rw [size] at fits
    exact fits.trans (Nat.min_le_left _ _)
  · obtain ⟨front,later,cut⟩ := exists_cut s.toList ((encode s).length - 200)
    obtain ⟨earlier,whole⟩ := cut.suffix
    have size : (front ++ encodeChars later).length = (encode s).length - ((encode s).length - 200) := by
      rw [← cut.bytes,List.length_drop,encode]
    have shown : preview (encode s) = String.ofList (List.replicate front.length replacement ++ later) := by
      rw [← decodeLossy_continuations cut.continues,← cut.bytes]
      rfl
    refine ⟨front.length,String.ofList earlier,String.ofList later,?_,?_,cut.length_le,?_,?_,?_,?_⟩
    · rw [← String.ofList_append,whole,String.ofList_toList]
    · rw [shown,String.ofList_append]
      rfl
    · exact congrArg List.length cut.takeWhile.symm
    · intro short
      have begins := cut.takeWhile
      rw [Nat.sub_eq_zero_of_le short,List.drop_zero,takeWhile_encodeChars] at begins
      rw [← begins,List.length_nil]
    · rw [encode,String.toList_ofList]
      rw [List.length_append] at size
      omega
    · intro text ends fits
      rw [String.toList_ofList]
      obtain ⟨before,together⟩ := ends
      refine cut.longest ⟨before,together⟩ ?_
      have within : (encode text).length ≤ (encode s).length := by
        rw [encode,encode,← together,encodeChars_append,List.length_append]
        omega
      rw [size]
      exact Nat.le_trans (Nat.le_min.mpr ⟨within,fits⟩) (by omega)

/-- One byte too many, which is the first of a character. -/
theorem preview_shows_end_cut :
    (String.ofList (List.replicate 197 'a')).toList <:+ (String.ofList ('😀' :: List.replicate 197 'a')).toList ∧
    (encode (String.ofList (List.replicate 197 'a'))).length ≤ 200 ∧
    (∃ k later, preview (encode (String.ofList ('😀' :: List.replicate 197 'a'))) =
      String.ofList (List.replicate k '\uFFFD') ++ later ∧ (String.ofList (List.replicate 197 'a')).toList <:+ later.toList) ∧
    (encode "é").length ≤ 200 ∧ ∃ later, preview (encode "é") = String.ofList (List.replicate 0 '\uFFFD') ++ later := by
  have ends : (String.ofList (List.replicate 197 'a')).toList <:+ (String.ofList ('😀' :: List.replicate 197 'a')).toList := by
    rw [String.toList_ofList,String.toList_ofList]
    exact List.suffix_cons _ _
  have fits : (encode (String.ofList (List.replicate 197 'a'))).length ≤ 200 := by
    rw [encode,String.toList_ofList]
    decide +kernel
  have short : (encode "é").length ≤ 200 := by decide
  obtain ⟨-,shows⟩ := preview_shows_end
  obtain ⟨k,-,later,-,shown,-,-,-,-,longest⟩ := shows (String.ofList ('😀' :: List.replicate 197 'a'))
  obtain ⟨k',-,later',-,shown',-,-,whole,-⟩ := shows "é"
  rw [whole short] at shown'
  exact ⟨ends,fits,⟨k,later,shown,longest _ ends fits⟩,short,later',shown'⟩

end TabCompletion.Utf8
