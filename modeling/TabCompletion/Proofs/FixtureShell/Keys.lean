import TabCompletion.FixtureShell.Basic
import TabCompletion.Probe
import TabCompletion.Proofs.FixtureShell.Completion
import TabCompletion.Proofs.Text.Utf8

/-!
# Keys of the fixture shell

What is typed in printable ASCII is echoed as it is and stands on the line (`pressAll_printable`); a
cancel empties the line. What TAB inserts comes after the echo: no bell is in it, and with the echo it
makes no erase pair (`no_erasePair`), so the echo can be told from it.
-/
namespace TabCompletion.FixtureShell

open Text Utf8

variable {s : FixtureShell} {c : Char} {cs : List Char}

theorem press_printable (printable : 0x20 ≤ c.toNat ∧ c.toNat < 0x7F) : s.press (UInt8.ofNat c.toNat) =
    ([UInt8.ofNat c.toNat], .goOn, { s with line := s.line ++ [c], withheld := none }) := by
  have value : (UInt8.ofNat c.toNat).toNat = c.toNat := toNat_ofNat (by omega)
  have other (key : UInt8) (special : key.toNat < 0x20 ∨ 0x7F ≤ key.toNat) : UInt8.ofNat c.toNat ≠ key := by
    rintro rfl
    omega
  have between : 0x20 ≤ UInt8.ofNat c.toNat ∧ UInt8.ofNat c.toNat < 0x7F := by
    rw [UInt8.le_iff_toNat_le,UInt8.lt_iff_toNat_lt,value]
    exact printable
  unfold press
  rw [if_neg (other 0x09 (by decide))]
  dsimp only
  rw [if_neg (other 0x03 (by decide)),if_neg fun both => other 0x04 (by decide) both.1,
    if_neg (not_or.mpr ⟨other 0x0D (by decide),other 0x0A (by decide)⟩),
    if_neg (not_or.mpr ⟨other 0x7F (by decide),other 0x08 (by decide)⟩),if_pos between,value,Char.ofNat_toNat]

/-- Printable text is echoed and put at the end of the line. -/
theorem pressAll_printable (printable : Printable cs) (empty : s.withheld = none) :
    s.pressAll (encodeChars cs) = (encodeChars cs, .goOn, { s with line := s.line ++ cs }) := by
  induction cs generalizing s with
  | nil => simp [pressAll]
  | cons c rest ih =>
    obtain ⟨first,others⟩ := List.forall_mem_cons.mp printable
    have one : encodeChars (c :: rest) = UInt8.ofNat c.toNat :: encodeChars rest := by
      rw [encodeChars_cons,encodeChar_ascii (by omega)]
      rfl
    rw [one,pressAll,press_printable first]
    dsimp only
    rw [ih others rfl]
    simp [empty]

/-- A cancel marks the line and begins a new one. -/
theorem pressAll_cancel : s.pressAll [0x03] =
    (encodeChars ('^' :: 'C' :: s.newPrompt), .goOn, { s with line := [], withheld := none }) := by
  simp [pressAll,press]
  rfl

theorem pressAll_tab : s.pressAll [0x09] = (s.pressTab.1, .goOn, s.pressTab.2) := by
  simp [pressAll,press]

/-- What is printed to replace a typed word by a longer one. -/
def retyped (typed word : List Char) : List Char :=
  if typed.isPrefixOf word then word.drop typed.length else List.replicate typed.length '\x08' ++ word

theorem length_encodeChars (printable : Printable cs) : (encodeChars cs).length = cs.length := by
  induction cs with
  | nil => rfl
  | cons c rest ih =>
    obtain ⟨first,others⟩ := List.forall_mem_cons.mp printable
    rw [encodeChars_cons,encodeChar_ascii (by omega),List.length_append,ih others]
    simp only [List.length_cons,List.length_nil]
    omega

theorem encodeChars_backspaces (n : Nat) : encodeChars (List.replicate n '\x08') = List.replicate n backspace := by
  induction n with
  | zero => rfl
  | succ n ih => rw [List.replicate_succ,encodeChars_cons,ih,List.replicate_succ]; rfl

theorem replaceWord_eq {head typed word : List Char} (printable : Printable typed) :
    replaceWord head typed word = .insert (encodeChars (retyped typed word)) (head ++ word) := by
  unfold replaceWord retyped
  dsimp only
  split
  · rfl
  · rw [encodeChars_append,encodeChars_backspaces,length_encodeChars printable]

variable {head typed word line : List Char}

theorem retyped_ne_nil (longer : typed.length < word.length) : retyped typed word ≠ [] := by
  intro empty
  have length := congrArg List.length empty
  unfold retyped at length
  split at length
  · rw [List.length_drop,List.length_nil] at length
    omega
  · rw [List.length_append,List.length_nil] at length
    omega

/-- The characters of what is printed are backspaces and those of the word. -/
theorem of_mem_retyped (member : c ∈ retyped typed word) : c = '\x08' ∨ c ∈ word := by
  unfold retyped at member
  split at member
  · exact .inr (List.mem_of_mem_drop member)
  · exact (List.mem_append.mp member).imp_left List.eq_of_mem_replicate

theorem not_mem_encodeChars_of_plain {b : UInt8} (plain : Plain cs) (control : b.toNat < 0x20) : b ∉ encodeChars cs := by
  intro member
  refine plain _ (mem_of_mem_encodeChars (by omega) member) (.inl ?_)
  rw [toNat_ofNat_ascii (by omega)]
  exact control

theorem bell_not_mem_retyped (plain : Plain word) : bell ∉ encodeChars (retyped typed word) := by
  intro member
  rcases of_mem_retyped (mem_of_mem_encodeChars (by decide) member) with back | among
  · exact absurd back (by decide)
  · exact plain _ among (by decide)

/-- No erase pair is in the echo of a line and what is printed after it: a word is typed over only if
    there was something of it, and that does not end in a space. -/
theorem no_erasePair (printable : Printable line) (whole : head ++ typed = line) (noSpace : ' ' ∉ typed)
    (plain : Plain word) : ¬erasePair <:+: encodeChars line ++ encodeChars (retyped typed word) := by
  have echo : backspace ∉ encodeChars line := not_mem_encodeChars_of_plain printable.plain (by decide)
  have inserted : backspace ∉ encodeChars word := not_mem_encodeChars_of_plain plain (by decide)
  have back : backspace ∈ erasePair := by decide
  unfold retyped
  split
  next =>
    intro inside
    rcases List.mem_append.mp (inside.subset back) with here | there
    · exact echo here
    · have := mem_of_mem_encodeChars (by decide) there
      exact plain _ (List.mem_of_mem_drop this) (by decide)
  next differs =>
  rw [encodeChars_append,encodeChars_backspaces]
  have noSpaces : (0x20 : UInt8) ∉ List.replicate typed.length backspace := fun member =>
    absurd (List.eq_of_mem_replicate member) (by decide)
  have nonempty : typed ≠ [] := by
    rintro rfl
    exact differs rfl
  intro inside
  rcases pair_infix_append inside with here | there | ⟨ends,-⟩
  · exact echo (here.subset back)
  · rcases pair_infix_append there with here | there | ⟨ends,-⟩
    · exact noSpaces (here.subset (by decide))
    · exact inserted (there.subset back)
    · exact noSpaces (ends.subset List.mem_cons_self)
  · -- The echo ends with what is typed over.
    have last : encodeChars typed <:+ encodeChars line := ⟨encodeChars head,by rw [← encodeChars_append,whole]⟩
    have long : [(0x20 : UInt8)].length ≤ (encodeChars typed).length := by
      rw [length_encodeChars (printable_append.mp (whole.symm ▸ printable)).2]
      exact List.length_pos_iff.mpr nonempty
    have space := (List.suffix_of_suffix_length_le ends last long).subset List.mem_cons_self
    exact noSpace (mem_of_mem_encodeChars (by decide) space)

end TabCompletion.FixtureShell
