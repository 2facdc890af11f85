import Mathlib.Tactic.IntervalCases
import Mathlib.Tactic.Ring
import TabCompletion.Identifier
import TabCompletion.Proofs.Document.Reading

/-!
# Identifiers as text

The digits of a number have its value again (`hexValue?_digits`), and hyphens between groups of digits do not count
(`parse?_of_parts`), so an identifier that is written is read as itself (`parse?_display`).
-/
namespace TabCompletion.Identifier

theorem hexDigitsOf_succ (size value : Nat) :
    hexDigitsOf (size + 1) value = Nat.digitChar (value >>> (4 * size) % 16) :: hexDigitsOf size value := by
  simp [hexDigitsOf,List.range_succ]

theorem length_hexDigitsOf (size value : Nat) : (hexDigitsOf size value).length = size := by simp [hexDigitsOf]

/-- Digits that are read after a number continue it. -/
theorem foldlM_hexDigitsOf {step : Nat → Char → Option Nat}
    (digit : ∀ n d, d < 16 → step n (Nat.digitChar d) = some (n * 16 + d)) (size value before : Nat) :
    (hexDigitsOf size value).foldlM step before = some (before * 16 ^ size + value % 16 ^ size) := by
  induction size generalizing before with
  | zero => simp [hexDigitsOf,Nat.mod_one]
  | succ size ih =>
    have shifted : value >>> (4 * size) = value / 16 ^ size := by rw [Nat.shiftRight_eq_div_pow,Nat.pow_mul]
    have split := Nat.mod_pow_succ (x := value) (b := 16) (k := size)
    rw [hexDigitsOf_succ,List.foldlM_cons,digit _ _ (Nat.mod_lt _ (by decide))]
    show (hexDigitsOf size value).foldlM step _ = _
    rw [ih,shifted,split]
    congr 1
    ring

theorem hexValue?_digits (size value : Nat) : hexValue? (hexDigitsOf (size + 1) value) = some (value % 16 ^ (size + 1)) := by
  have nonempty : (hexDigitsOf (size + 1) value).isEmpty = false := by rw [hexDigitsOf_succ]; rfl
  rw [hexValue?,Node.digitsValue?,if_neg (by simp [nonempty]),foldlM_hexDigitsOf]
  · simp
  · intro n d small
    interval_cases d <;> rfl

theorem hyphen_not_mem_digits (size value : Nat) : '-' ∉ hexDigitsOf size value := by
  intro member
  obtain ⟨i,-,is⟩ := List.mem_map.mp member
  have small : value >>> (4 * i) % 16 < 16 := Nat.mod_lt _ (by decide)
  generalize value >>> (4 * i) % 16 = d at is small
  interval_cases d <;> exact absurd is (by decide)

/-- Five groups of digits are read like the digits without the hyphens. -/
theorem parse?_of_parts {a b c d e : List Char} (first : a.length = 8) (second : b.length = 4) (third : c.length = 4)
    (fourth : d.length = 4) (last : e.length = 12) (plain : '-' ∉ a ++ b ++ c ++ d ++ e) :
    parse? (String.ofList (a ++ '-' :: b ++ '-' :: c ++ '-' :: d ++ '-' :: e)) = ofDigits? (a ++ b ++ c ++ d ++ e) := by
  have places : [8,13,18,23].all (fun i => (a ++ '-' :: b ++ '-' :: c ++ '-' :: d ++ '-' :: e)[i]? == some '-') = true := by
    simp [List.getElem?_append,first,second,third,fourth]
  have digits : (a ++ '-' :: b ++ '-' :: c ++ '-' :: d ++ '-' :: e).filter (· != '-') = a ++ b ++ c ++ d ++ e := by
    have all : (a ++ b ++ c ++ d ++ e).filter (· != '-') = a ++ b ++ c ++ d ++ e := by
      refine List.filter_eq_self.mpr fun x member => ?_
      exact bne_iff_ne.mpr fun is => plain (is ▸ member)
    simpa [List.filter_append] using all
  have length : (a ++ '-' :: b ++ '-' :: c ++ '-' :: d ++ '-' :: e).length = 36 := by
    simp [first,second,third,fourth,last]
  rw [parse?,String.toList_ofList]
  simp only [length]
  rw [ofGroups?,if_pos ⟨length,places⟩,digits]

theorem parse?_display (id : Identifier) : parse? id.display = some id := by
  obtain ⟨value⟩ := id
  have length : (hexDigitsOf 32 value.toNat).length = 32 := length_hexDigitsOf 32 _
  have plain := hyphen_not_mem_digits 32 value.toNat
  have read : ofDigits? (hexDigitsOf 32 value.toNat) = some ⟨value⟩ := by
    have fits : value.toNat % 16 ^ 32 = value.toNat := Nat.mod_eq_of_lt value.isLt
    rw [ofDigits?,if_pos length,hexValue?_digits,fits]
    simp
  rw [display]
  generalize hexDigitsOf 32 value.toNat = ds at length plain read ⊢
  have step (n m : Nat) : (ds.drop n).take m ++ ds.drop (n + m) = ds.drop n := by
    rw [← List.drop_drop]
    exact List.take_append_drop m _
  have whole : (ds.drop 0).take 8 ++ (ds.drop 8).take 4 ++ (ds.drop 12).take 4 ++ (ds.drop 16).take 4 ++
      (ds.drop 20).take 12 = ds := by
    have last : (ds.drop 20).take 12 = ds.drop 20 := List.take_of_length_le (by simp [length])
    simp only [List.append_assoc]
    rw [last,step 16 4,step 12 4,step 8 4,step 0 8,List.drop_zero]
  have parsed := parse?_of_parts (a := (ds.drop 0).take 8) (b := (ds.drop 8).take 4) (c := (ds.drop 12).take 4)
    (d := (ds.drop 16).take 4) (e := (ds.drop 20).take 12) (by simp [length]) (by simp [length]) (by simp [length])
    (by simp [length]) (by simp [length]) (by rwa [whole])
  rw [whole,read] at parsed
  exact parsed

/-- An identifier that is written is read as itself. -/
theorem reads_display (id : Identifier) : Reads Identifier.read (.str id.display) (.ok id) := by
  intro k same
  cases same
  simp [Identifier.read,Node.ofJson,Node.readString,parse?_display,bind,Except.bind,pure,Except.pure]

end TabCompletion.Identifier
