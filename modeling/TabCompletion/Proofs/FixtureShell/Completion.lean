import TabCompletion.Proofs.FixtureShell.CommonStart
import TabCompletion.Proofs.Text.Utf8
import TabCompletion.Proofs.Text.Words

/-!
# What the fixture shell completes

On a line of printable ASCII in a keyspace without control characters, TAB does one of three things
(`complete_completed`): nothing, or it replaces the last word by a longer one, or it has candidates of
which at least one shows something. No control character comes from the candidates.
-/
namespace TabCompletion.FixtureShell

open Text

/-- A control character of Unicode. -/
def IsControl (c : Char) : Prop := c.toNat < 0x20 ∨ 0x7F ≤ c.toNat ∧ c.toNat < 0xA0

/-- Text without control characters. -/
def Plain (cs : List Char) : Prop := ∀ c ∈ cs, ¬IsControl c

/-- Text that can be typed: printable ASCII. -/
def Printable (cs : List Char) : Prop := ∀ c ∈ cs, 0x20 ≤ c.toNat ∧ c.toNat < 0x7F

instance (c : Char) : Decidable (IsControl c) := by unfold IsControl; infer_instance

-- Over characters there is a decision for all of Unicode too, so those for lists are named.
instance (cs : List Char) : Decidable (Plain cs) := List.decidableBAll _ cs

instance (cs : List Char) : Decidable (Printable cs) := List.decidableBAll _ cs

variable {xs ys : List Char} {c : Char}

theorem plain_append : Plain (xs ++ ys) ↔ Plain xs ∧ Plain ys := List.forall_mem_append

theorem printable_append : Printable (xs ++ ys) ↔ Printable xs ∧ Printable ys := List.forall_mem_append

theorem Printable.plain (printable : Printable xs) : Plain xs := by
  intro c member control
  have := printable c member
  unfold IsControl at control
  omega

theorem Plain.of_subset (plain : Plain ys) (subset : ∀ c ∈ xs, c ∈ ys) : Plain xs :=
  fun c member => plain c (subset c member)

theorem Plain.inLine (plain : Plain xs) : InLine xs := by
  intro c member
  have other := plain c member
  constructor
  · rintro rfl; exact other (by decide)
  · rintro rfl; exact other (by decide)

theorem le_iff_toNat_le {a b : Char} : a ≤ b ↔ a.toNat ≤ b.toNat := by
  rw [Char.le_def,UInt32.le_iff_toNat_le]
  rfl

theorem toNat_ofNat_ascii {n : Nat} (ascii : n < 0x80) : (Char.ofNat n).toNat = n := by
  unfold Char.ofNat
  rw [dif_pos (.inl (by omega))]
  rfl

theorem toNat_upperAscii (c : Char) :
    (upperAscii c).toNat = if 0x61 ≤ c.toNat ∧ c.toNat ≤ 0x7A then c.toNat - 32 else c.toNat := by
  unfold upperAscii
  simp only [le_iff_toNat_le,show 'a'.toNat = 0x61 from rfl,show 'z'.toNat = 0x7A from rfl]
  split
  next lower => exact toNat_ofNat_ascii (by omega)
  next => rfl

theorem toNat_lowerAscii (c : Char) :
    (lowerAscii c).toNat = if 0x41 ≤ c.toNat ∧ c.toNat ≤ 0x5A then c.toNat + 32 else c.toNat := by
  unfold lowerAscii
  simp only [le_iff_toNat_le,show 'A'.toNat = 0x41 from rfl,show 'Z'.toNat = 0x5A from rfl]
  split
  next upper => exact toNat_ofNat_ascii (by omega)
  next => rfl

theorem utf8Size_eq_one {c : Char} (ascii : c.toNat < 0x80) : c.utf8Size = 1 := Char.utf8Size_eq_one_iff.mpr (by
  rw [UInt32.le_iff_toNat_le]
  exact Nat.le_of_lt_succ ascii)

theorem utf8Size_lowerAscii (c : Char) : (lowerAscii c).utf8Size = c.utf8Size := by
  have value := toNat_lowerAscii c
  split at value
  · rw [utf8Size_eq_one (by omega),utf8Size_eq_one (by omega)]
  · rw [Char.toNat_inj.mp value]

theorem isControl_upperAscii : IsControl (upperAscii c) ↔ IsControl c := by
  unfold IsControl
  rw [toNat_upperAscii]
  split <;> omega

theorem isControl_lowerAscii : IsControl (lowerAscii c) ↔ IsControl c := by
  unfold IsControl
  rw [toNat_lowerAscii]
  split <;> omega

theorem plain_map {f : Char → Char} (keeps : ∀ {c}, IsControl (f c) ↔ IsControl c) : Plain (xs.map f) ↔ Plain xs := by
  unfold Plain
  simp only [List.forall_mem_map,keeps]

/-- A character that is the same as a letter, but for its case, is no blank. -/
theorem not_isBlank_of_same {a b : Char} (same : sameIgnoringCase a b = true) (printable : 0x20 ≤ b.toNat ∧ b.toNat < 0x7F)
    (other : b ≠ ' ') : ¬isBlank a = true := by
  have equal : (lowerAscii a).toNat = (lowerAscii b).toNat := congrArg Char.toNat (beq_iff_eq.mp same)
  have apart : b.toNat ≠ 0x20 := fun space => other (Char.toNat_inj.mp space)
  rw [toNat_lowerAscii,toNat_lowerAscii] at equal
  unfold isBlank
  simp only [Bool.or_eq_true,Bool.and_eq_true,decide_eq_true_eq,beq_iff_eq]
  split at equal <;> split at equal <;> omega

/-! ## Candidates -/

/-- A printable word that shows something. -/
def Visible (cs : List Char) : Prop := Printable cs ∧ ∃ c ∈ cs, ¬isBlank c = true

instance (cs : List Char) : Decidable (Visible cs) :=
  have : Decidable (∃ c ∈ cs, ¬isBlank c = true) := List.decidableBEx _ cs
  inferInstanceAs (Decidable (_ ∧ _))

/-- A hint is printable but for the name of its column. -/
theorem of_mem_valueHint {column : List Char} (member : c ∈ valueHint column) :
    c ∈ column.map lowerAscii ∨ 0x20 ≤ c.toNat ∧ c.toNat < 0x7F := by
  have before : Printable "<value for ".toList := by decide
  have kind : Printable (" (" ++ (if column = "AGE".toList then "int" else "text") ++ ")>").toList := by split <;> decide
  rcases List.mem_append.mp member with start | last
  · exact (List.mem_append.mp start).symm.imp_right (before c)
  · exact .inr (kind c last)

theorem plain_valueHint {column : List Char} (plain : Plain column) : Plain (valueHint column) := by
  intro c member control
  rcases of_mem_valueHint member with name | other
  · exact (plain_map isControl_lowerAscii).mpr plain c name control
  · unfold IsControl at control
    omega

theorem printable_valueHint {column : List Char} (printable : Printable column) :
    Printable (valueHint (column.map upperAscii)) := by
  intro c member
  rcases of_mem_valueHint member with name | other
  · simp only [List.map_map,List.mem_map,Function.comp_apply] at name
    obtain ⟨d,among,rfl⟩ := name
    have := printable d among
    rw [toNat_lowerAscii,toNat_upperAscii]
    split <;> split <;> omega
  · exact other

/-- What a candidate may be: the keyspace, a hint for a column that was typed, or a word of the
    vocabulary. -/
inductive Candidate (words : List (List Char)) (keyspace : List Char) : List Char → Prop where
  | keyspace : Candidate words keyspace keyspace
  | hint {column : List Char} (typed : column ∈ words) : Candidate words keyspace (valueHint (column.map upperAscii))
  | word {cs : List Char} (visible : Visible cs) : Candidate words keyspace cs

variable {words : List (List Char)} {keyspace candidate : List Char}

theorem candidatesAfter_candidate (member : candidate ∈ candidatesAfter words keyspace) :
    Candidate words keyspace candidate := by
  have vocabulary {others : List (List Char)} (visible : ∀ w ∈ others, Visible w) (among : candidate ∈ others) :
      Candidate words keyspace candidate := .word (visible candidate among)
  have orKeyspace (before after : List (List Char)) (visible : ∀ w ∈ before ++ after, Visible w)
      (among : candidate ∈ before ++ keyspace :: after) : Candidate words keyspace candidate := by
    rcases List.mem_append.mp among with member | member
    · exact .word (visible candidate (List.mem_append_left _ member))
    rcases List.mem_cons.mp member with rfl | member
    · exact .keyspace
    · exact .word (visible candidate (List.mem_append_right _ member))
  unfold candidatesAfter at member
  dsimp only at member
  split at member
  case h_3 => exact orKeyspace ["IF".toList] ["system".toList] (by decide) member
  case h_4 =>
    split at member
    · exact vocabulary (by decide) member
    · cases member
  case h_8 => exact orKeyspace [] ["system".toList] (by decide) member
  case h_13 column given =>
    obtain ⟨word,typed,same⟩ := List.mem_map.mp (given ▸ (by simp : column ∈ ["UPDATE","USERS","SET",column,"="]))
    rw [List.mem_singleton.mp member,← same,String.toList_ofList]
    exact .hint typed
  case h_14 => cases member
  all_goals exact vocabulary (by decide) member

theorem plain_candidatesAfter (keys : Plain keyspace) (typed : ∀ w ∈ words, Plain w)
    (member : candidate ∈ candidatesAfter words keyspace) : Plain candidate := by
  cases candidatesAfter_candidate member with
  | keyspace => exact keys
  | hint column => exact plain_valueHint ((plain_map isControl_upperAscii).mpr (typed _ column))
  | word visible => exact visible.1.plain

theorem printable_candidatesAfter (keys : Printable keyspace) (typed : ∀ w ∈ words, Printable w)
    (member : candidate ∈ candidatesAfter words keyspace) : Printable candidate := by
  cases candidatesAfter_candidate member with
  | keyspace => exact keys
  | hint column => exact printable_valueHint (typed _ column)
  | word visible => exact visible.1

/-- Where there is a choice, one of the candidates shows something, whatever the keyspace is called. -/
theorem candidatesAfter_shows (several : 1 < (candidatesAfter words keyspace).length) :
    ∃ w ∈ candidatesAfter words keyspace, Visible w := by
  have begins {w : List Char} {others : List (List Char)} (visible : Visible w) : ∃ v ∈ w :: others, Visible v :=
    ⟨w,List.mem_cons_self,visible⟩
  revert several
  unfold candidatesAfter
  dsimp only
  split <;> intro several
  case h_4 => split at several <;> simp at several
  case h_6 => simp [wordList] at several
  case h_8 => exact ⟨"system".toList,by simp,by decide⟩
  case h_13 => simp at several
  case h_14 => simp at several
  all_goals exact begins (by decide)

/-- A line is what comes before its last word and the last word, which has no space. -/
theorem splitLine_eq (line : List Char) :
    ∃ head typed, splitLine line = (head, typed) ∧ head ++ typed = line ∧ ' ' ∉ typed := by
  have parts : (line.reverse.dropWhile (· != ' ')).reverse ++ (line.reverse.takeWhile (· != ' ')).reverse = line := by
    rw [← List.reverse_append,List.takeWhile_append_dropWhile,List.reverse_reverse]
  refine ⟨_,_,rfl,?_,fun space => ?_⟩
  · have head := congrArg (List.take (line.length - (line.reverse.takeWhile (· != ' ')).reverse.length)) parts
    rw [List.take_left' (by rw [← congrArg List.length parts,List.length_append]; omega)] at head
    rw [← head,parts]
  · have other := List.all_eq_true.mp (List.all_takeWhile (p:=(· != ' '))) ' ' (List.mem_reverse.mp space)
    simp at other

/-! ## What TAB does -/

/-- What the shell may complete a line to: nothing, a longer last word, or candidates that show something. -/
inductive Completed (line : List Char) : Completion → Prop where
  | nothing : Completed line .nothing
  | insert {head typed word : List Char} (whole : head ++ typed = line) (noSpace : ' ' ∉ typed)
      (longer : typed.length < word.length) (plain : Plain word) : Completed line (replaceWord head typed word)
  | ambiguous {candidates : List (List Char)} (plain : ∀ w ∈ candidates, Plain w)
      (shows : ∃ w ∈ candidates, ∃ c ∈ w, ¬isBlank c = true) : Completed line (.ambiguous candidates)

theorem shows_of_isHint {w : List Char} (hint : isHint w = true) : ∃ c ∈ w, ¬isBlank c = true := by
  unfold isHint at hint
  rcases Bool.or_eq_true_iff.mp hint with angle | semicolon
  · cases w with
    | nil => cases angle
    | cons c rest =>
      obtain rfl : c = '<' := by simpa using angle
      exact ⟨'<',List.mem_cons_self,by decide⟩
  · rw [beq_iff_eq.mp semicolon]
    exact ⟨';',List.mem_cons_self,by decide⟩

/-- A candidate for a word of which something was typed shows something. -/
theorem shows_of_begins {w : List Char} {t : Char} {typed : List Char} (begins : beginsIgnoringCase w (t :: typed) = true)
    (printable : 0x20 ≤ t.toNat ∧ t.toNat < 0x7F) (noSpace : t ≠ ' ') : ∃ c ∈ w, ¬isBlank c = true := by
  cases w with
  | nil => cases begins
  | cons c rest => exact ⟨c,List.mem_cons_self,not_isBlank_of_same (Bool.and_eq_true_iff.mp begins).1 printable noSpace⟩

/-- The candidates for the last word of a line. -/
def candidatesFor (head typed keyspace : List Char) : List (List Char) :=
  (candidatesAfter (Text.wordsChars head) keyspace).filter (beginsIgnoringCase · typed)

theorem plain_candidatesFor {head typed w : List Char} (line : Plain head) (keys : Plain keyspace)
    (member : w ∈ candidatesFor head typed keyspace) : Plain w := by
  have words : ∀ v ∈ wordsChars head, Plain v := fun v among =>
    line.of_subset fun c inside => of_mem_wordsChars among inside
  exact plain_candidatesAfter keys words (List.mem_of_mem_filter member)

theorem printable_candidatesFor {head typed w : List Char} (line : Printable head) (keys : Printable keyspace)
    (member : w ∈ candidatesFor head typed keyspace) : Printable w :=
  have words : ∀ v ∈ wordsChars head, Printable v := fun _ among c inside => line c (of_mem_wordsChars among inside)
  printable_candidatesAfter keys words (List.mem_of_mem_filter member)

/-- Where there is more than one candidate, one of them shows something. -/
theorem candidatesFor_shows {head typed : List Char} (printable : Printable typed) (noSpace : ' ' ∉ typed)
    (several : 1 < (candidatesFor head typed keyspace).length) :
    ∃ w ∈ candidatesFor head typed keyspace, ∃ c ∈ w, ¬isBlank c = true := by
  cases typed with
  | nil =>
    have all : candidatesFor head [] keyspace = candidatesAfter (wordsChars head) keyspace :=
      List.filter_eq_self.mpr fun w _ => by cases w <;> rfl
    rw [all] at several ⊢
    obtain ⟨w,member,visible⟩ := candidatesAfter_shows several
    exact ⟨w,member,visible.2⟩
  | cons t typed =>
    obtain ⟨w,member⟩ := List.exists_mem_of_length_pos (Nat.lt_of_succ_lt several)
    have begins : beginsIgnoringCase w (t :: typed) = true := (List.mem_filter.mp member).2
    exact ⟨w,member,shows_of_begins begins (printable t List.mem_cons_self) fun same => noSpace (same ▸ List.mem_cons_self)⟩

/-- What TAB does with the candidates for the last word of a line. -/
inductive Completes (head typed : List Char) (candidates : List (List Char)) : Completion → Prop where
  | nothing (empty : candidates = []) : Completes head typed candidates .nothing
  | only {word : List Char} (one : candidates = [word]) (noHint : isHint word = false) :
      Completes head typed candidates (replaceWord head typed (word ++ [' ']))
  | common (several : 1 < candidates.length) (noHint : ∀ w ∈ candidates, isHint w = false)
      (longer : typed.length < (commonStart candidates).length) :
      Completes head typed candidates (replaceWord head typed (commonStart candidates))
  | hints (hinted : ∃ w ∈ candidates, isHint w = true) : Completes head typed candidates (.ambiguous candidates)
  | undecided (several : 1 < candidates.length) (noHint : ∀ w ∈ candidates, isHint w = false)
      (notLonger : ¬typed.length < (commonStart candidates).length) :
      Completes head typed candidates (.ambiguous candidates)

theorem length_encodeChars_map_lowerAscii (cs : List Char) :
    (Utf8.encodeChars (cs.map lowerAscii)).length = (Utf8.encodeChars cs).length := by
  induction cs with
  | nil => rfl
  | cons c rest ih =>
    rw [List.map_cons,Utf8.encodeChars_cons,Utf8.encodeChars_cons,List.length_append,List.length_append,ih,
      Utf8.encodeChar,Utf8.encodeChar,String.length_utf8EncodeChar,String.length_utf8EncodeChar,utf8Size_lowerAscii]

/-- A word that begins with what was typed is longer than that in bytes just if it is longer in characters. -/
theorem BeginsAs.length_encodeChars_lt_iff {word typed : List Char} (begins : BeginsAs word typed) :
    (Utf8.encodeChars typed).length < (Utf8.encodeChars word).length ↔ typed.length < word.length := by
  obtain ⟨more,whole⟩ := begins
  have length : word.length = typed.length + more.length := by simpa using (congrArg List.length whole).symm
  rw [← length_encodeChars_map_lowerAscii word,← whole,Utf8.encodeChars_append,List.length_append,
    length_encodeChars_map_lowerAscii,length]
  -- What comes after the typed word has no bytes just if it has no characters.
  cases more with
  | nil => simp
  | cons c rest =>
    have bytes : 0 < (Utf8.encodeChars (c :: rest)).length := by
      rw [Utf8.encodeChars_cons,List.length_append,Utf8.encodeChar,String.length_utf8EncodeChar]
      exact Nat.add_pos_left c.utf8Size_pos _
    rw [List.length_cons]
    omega

theorem complete_completes {line head typed : List Char} (splits : splitLine line = (head, typed)) (keyspace : List Char) :
    Completes head typed (candidatesFor head typed keyspace) (complete line keyspace) := by
  unfold complete
  rw [splits]
  dsimp only
  rw [← candidatesFor]
  have each : ∀ w ∈ candidatesFor head typed keyspace, BeginsAs w typed := fun w member =>
    beginsIgnoringCase_iff.mp (List.mem_filter.mp member).2
  generalize candidatesFor head typed keyspace = candidates at each
  -- Where the candidates do not settle the word, they are listed or their common start is inserted.
  have several (unsettled : candidates.any isHint = true ∨ 1 < candidates.length) : Completes head typed candidates
      (if candidates.any isHint then .ambiguous candidates
       else if (Utf8.encodeChars typed).length < (Utf8.encodeChars (commonStart candidates)).length then
        replaceWord head typed (commonStart candidates)
       else .ambiguous candidates) := by
    by_cases hints : candidates.any isHint = true
    · rw [if_pos hints]
      exact .hints (List.any_eq_true.mp hints)
    · have many := unsettled.resolve_left hints
      have noHint : ∀ w ∈ candidates, isHint w = false := by simpa using hints
      obtain ⟨first,others,rfl⟩ := List.exists_cons_of_length_pos (Nat.lt_of_succ_lt many)
      rw [if_neg hints]
      simp only [(beginsAs_commonStart_iff.mpr each).length_encodeChars_lt_iff]
      split
      next longer => exact .common many noHint longer
      next notLonger => exact .undecided many noHint notLonger
  split
  next => exact .nothing rfl
  next only =>
    split
    next hint => exact several (.inl (by simpa using hint))
    next other => exact .only rfl (Bool.eq_false_iff.mpr other)
  next nonempty notOne =>
    refine several (.inr ?_)
    rcases candidates with _ | ⟨first,_ | ⟨second,others⟩⟩
    · exact absurd rfl nonempty
    · exact absurd rfl (notOne first)
    · simp

theorem complete_completed {line : List Char} (typed : Printable line) (keys : Plain keyspace) :
    Completed line (complete line keyspace) := by
  obtain ⟨head,last,splits,whole,noSpace⟩ := splitLine_eq line
  obtain ⟨before,printable⟩ := printable_append.mp (whole.symm ▸ typed)
  have plain : ∀ w ∈ candidatesFor head last keyspace, Plain w := fun w => plain_candidatesFor before.plain keys
  have shows : 1 < (candidatesFor head last keyspace).length →
      ∃ w ∈ candidatesFor head last keyspace, ∃ c ∈ w, ¬isBlank c = true := candidatesFor_shows printable noSpace
  have begins : ∀ w ∈ candidatesFor head last keyspace, last.length ≤ w.length := fun w member =>
    (beginsIgnoringCase_iff.mp (List.mem_filter.mp member).2).length_le
  have completes := complete_completes splits keyspace
  generalize candidatesFor head last keyspace = candidates at plain shows begins completes
  generalize complete line keyspace = done at completes ⊢
  cases completes with
  | nothing empty => exact .nothing
  | @only word one noHint =>
    have among : word ∈ candidates := one ▸ List.mem_cons_self
    refine .insert whole noSpace ?_ (plain_append.mpr ⟨plain word among,by decide⟩)
    have := begins word among
    rw [List.length_append,List.length_singleton]
    omega
  | common several noHint longer =>
    obtain ⟨first,others,rfl⟩ := List.exists_cons_of_length_pos (Nat.lt_of_succ_lt several)
    have start := commonStart_isPrefix first others
    exact .insert whole noSpace longer ((plain first List.mem_cons_self).of_subset fun c member => start.subset member)
  | hints hinted =>
    obtain ⟨w,member,hint⟩ := hinted
    exact .ambiguous plain ⟨w,member,shows_of_isHint hint⟩
  | undecided several noHint notLonger => exact .ambiguous plain (shows several)

end TabCompletion.FixtureShell
