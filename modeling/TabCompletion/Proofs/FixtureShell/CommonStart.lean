import TabCompletion.FixtureShell.Completion

/-!
# Common starts of words

Two words are compared without regard to the case of ASCII letters: `BeginsAs` says that a word begins with
characters then. The common start of words is what all of them begin with, and whatever all of them begin
with is no longer (`beginsAs_commonStart_iff`). Their order matters only for the case of its letters, and one
more word makes it shorter or leaves it as it is (`commonStart_longest`).
-/
namespace TabCompletion.FixtureShell

variable {cs start xs ys zs first : List Char} {others : List (List Char)}

/-- A word begins with the characters, but for the case of ASCII letters. -/
def BeginsAs (cs start : List Char) : Prop := start.map lowerAscii <+: cs.map lowerAscii

instance (cs start : List Char) : Decidable (BeginsAs cs start) := by unfold BeginsAs; infer_instance

theorem beginsAs_nil (cs : List Char) : BeginsAs cs [] := List.nil_prefix

theorem beginsAs_cons_iff {c d : Char} : BeginsAs (c :: cs) (d :: start) ↔ lowerAscii d = lowerAscii c ∧ BeginsAs cs start := by
  unfold BeginsAs
  rw [List.map_cons,List.map_cons,List.cons_prefix_cons]

theorem BeginsAs.trans (one : BeginsAs xs ys) (other : BeginsAs ys zs) : BeginsAs xs zs := List.IsPrefix.trans other one

theorem beginsAs_of_isPrefix (prefixed : start <+: cs) : BeginsAs cs start := prefixed.map lowerAscii

theorem beginsAs_append_iff : BeginsAs (xs ++ ys) (xs ++ zs) ↔ BeginsAs ys zs := by
  unfold BeginsAs
  rw [List.map_append,List.map_append,List.prefix_append_right_inj]

theorem BeginsAs.length_le (begins : BeginsAs cs start) : start.length ≤ cs.length := by
  simpa using List.IsPrefix.length_le begins

theorem beginsIgnoringCase_iff : beginsIgnoringCase cs start = true ↔ BeginsAs cs start := by
  fun_induction beginsIgnoringCase cs start with
  | case1 cs => simp [beginsAs_nil]
  | case2 d start => simp [BeginsAs]
  | case3 c cs d start ih => rw [Bool.and_eq_true,ih,beginsAs_cons_iff,sameIgnoringCase,beq_iff_eq,eq_comm]

/-- The shared start of two words begins with what both of them begin with. -/
theorem beginsAs_sharedStart_iff : BeginsAs (sharedStart xs ys) zs ↔ BeginsAs xs zs ∧ BeginsAs ys zs := by
  cases zs with
  | nil => simp [beginsAs_nil]
  | cons z zs =>
    fun_induction sharedStart xs ys generalizing z zs with
    | case1 x xs y ys same ih =>
      have equal : lowerAscii x = lowerAscii y := beq_iff_eq.mp same
      have rest : BeginsAs (sharedStart xs ys) zs ↔ BeginsAs xs zs ∧ BeginsAs ys zs := by
        cases zs with
        | nil => simp [beginsAs_nil]
        | cons w ws => exact ih w ws
      rw [beginsAs_cons_iff,beginsAs_cons_iff,beginsAs_cons_iff,rest,equal]
      exact and_and_left
    | case2 x xs y ys differ =>
      rw [beginsAs_cons_iff,beginsAs_cons_iff]
      refine iff_of_false (by simp [BeginsAs]) ?_
      rintro ⟨⟨here,-⟩,there,-⟩
      exact differ (beq_iff_eq.mpr (here.symm.trans there))
    | case3 xs ys unequal =>
      refine iff_of_false (by simp [BeginsAs]) ?_
      rintro ⟨here,there⟩
      cases xs with
      | nil => simp [BeginsAs] at here
      | cons x xs =>
        cases ys with
        | nil => simp [BeginsAs] at there
        | cons y ys => exact unequal x xs y ys rfl rfl

/-- The common start of words begins with what all of them begin with. -/
theorem beginsAs_commonStart_iff :
    BeginsAs (commonStart (first :: others)) start ↔ ∀ w ∈ first :: others, BeginsAs w start := by
  induction others generalizing first with
  | nil => simp [commonStart]
  | cons next rest ih =>
    have fold : commonStart (first :: next :: rest) = commonStart (sharedStart first next :: rest) := rfl
    rw [fold,ih,List.forall_mem_cons,beginsAs_sharedStart_iff,List.forall_mem_cons,List.forall_mem_cons,
      and_assoc]

/-- The longest start that all words share, but for the case of ASCII letters, as the first one writes it. -/
structure LongestStart (words : List (List Char)) (start : List Char) : Prop where
  ofFirst : ∃ first, words.head? = some first ∧ start <+: first
  ofEach : ∀ w ∈ words, BeginsAs w start
  longest : ∀ other, (∀ w ∈ words, BeginsAs w other) → other.length ≤ start.length

/-- The shared start of words is a start of the first one. -/
theorem sharedStart_isPrefix (xs ys : List Char) : sharedStart xs ys <+: xs := by
  fun_induction sharedStart xs ys
  case case1 a xs b ys same ih => exact List.cons_prefix_cons.mpr ⟨rfl,ih⟩
  case case2 => exact List.nil_prefix
  case case3 => exact List.nil_prefix

theorem commonStart_isPrefix (first : List Char) (others : List (List Char)) : commonStart (first :: others) <+: first := by
  unfold commonStart
  induction others generalizing first with
  | nil => exact List.prefix_refl first
  | cons next rest ih => exact (ih (sharedStart first next)).trans (sharedStart_isPrefix first next)

theorem longestStart_commonStart {words : List (List Char)} (nonempty : words ≠ []) : LongestStart words (commonStart words) := by
  obtain ⟨first,others,rfl⟩ := List.exists_cons_of_ne_nil nonempty
  exact
    { ofFirst := ⟨first,rfl,commonStart_isPrefix first others⟩
      ofEach := beginsAs_commonStart_iff.mp (beginsAs_of_isPrefix (List.prefix_refl _))
      longest := fun _ each => (beginsAs_commonStart_iff.mpr each).length_le }

/-- Words have one longest start. -/
theorem LongestStart.unique {words : List (List Char)} (one : LongestStart words xs) (other : LongestStart words ys) :
    xs = ys := by
  obtain ⟨first,head,prefixed⟩ := one.ofFirst
  obtain ⟨_,head',prefixed'⟩ := other.ofFirst
  rw [head] at head'
  cases head'
  have length : xs.length = ys.length := Nat.le_antisymm (other.longest xs one.ofEach) (one.longest ys other.ofEach)
  exact (List.prefix_of_prefix_length_le prefixed prefixed' (Nat.le_of_eq length)).eq_of_length length

/-- A word begins with characters just if as many characters at its start are the same. -/
theorem beginsAs_iff_take : BeginsAs cs start ↔ equalIgnoringCase (cs.take start.length) start = true := by
  rw [equalIgnoringCase,beq_iff_eq,List.map_take,BeginsAs,List.prefix_iff_eq_take,List.length_map,eq_comm]

theorem BeginsAs.same (begins : BeginsAs cs start) (length : cs.length = start.length) :
    equalIgnoringCase cs start = true := by
  rwa [beginsAs_iff_take,← length,List.take_length] at begins

/-- Words that all are among others share at least what the others share. -/
theorem beginsAs_commonStart_of_subset {words more : List (List Char)} (nonempty : words ≠ []) (subset : words ⊆ more) :
    BeginsAs (commonStart words) (commonStart more) := by
  obtain ⟨first,others,rfl⟩ := List.exists_cons_of_ne_nil nonempty
  have several : more ≠ [] := List.ne_nil_of_mem (subset List.mem_cons_self)
  exact beginsAs_commonStart_iff.mpr fun w member => (longestStart_commonStart several).ofEach w (subset member)

/-- One more word at the end makes the common start shorter or leaves it as it is. -/
theorem commonStart_append_isPrefix (first added : List Char) (others : List (List Char)) :
    commonStart (first :: others ++ [added]) <+: commonStart (first :: others) := by
  rw [List.cons_append,commonStart,List.foldl_append]
  exact sharedStart_isPrefix _ added

/-- The common start of words is the longest start of the first one that all of them begin with, whole characters
    being compared but for the case of ASCII letters. The same words in another order have the same common start
    but for that case, and a further word at the end at most makes it shorter. -/
theorem commonStart_longest (first : List Char) (others : List (List Char)) :
    let words := first :: others
    let start := commonStart words
    start <+: first ∧
    (∀ w ∈ words, start.length ≤ w.length ∧ equalIgnoringCase (w.take start.length) start = true) ∧
    (∀ longer, longer <+: first → (∀ w ∈ words, equalIgnoringCase (w.take longer.length) longer = true) → longer <+: start) ∧
    (∀ shuffled, shuffled.Perm words →
      (commonStart shuffled).length = start.length ∧ equalIgnoringCase (commonStart shuffled) start = true) ∧
    ∀ added, commonStart (words ++ [added]) <+: start := by
  intro words start
  have nonempty : words ≠ [] := List.cons_ne_nil first others
  have longest : LongestStart words start := longestStart_commonStart nonempty
  have prefixed : start <+: first := commonStart_isPrefix first others
  refine ⟨prefixed,fun w member => ?_,fun longer ofFirst each => ?_,fun shuffled perm => ?_,?_⟩
  · have begins := longest.ofEach w member
    exact ⟨begins.length_le,beginsAs_iff_take.mp begins⟩
  · have shorter := longest.longest longer fun w member => beginsAs_iff_take.mpr (each w member)
    exact List.prefix_of_prefix_length_le ofFirst prefixed shorter
  · have nonempty' : shuffled ≠ [] := fun empty => nonempty (List.nil_perm.mp (empty ▸ perm))
    have one : BeginsAs (commonStart shuffled) start := beginsAs_commonStart_of_subset nonempty' perm.subset
    have other : BeginsAs start (commonStart shuffled) := beginsAs_commonStart_of_subset nonempty perm.symm.subset
    have length := Nat.le_antisymm other.length_le one.length_le
    exact ⟨length,one.same length⟩
  · exact fun added => commonStart_append_isPrefix first added others

theorem commonStart_names :
    (∀ w ∈ ["Über".toList,"ÜBUNG".toList,"ÜBEL".toList], equalIgnoringCase (w.take 2) "Üb".toList = true) ∧
    "Üb".toList <+: commonStart ["Über".toList,"ÜBUNG".toList,"ÜBEL".toList] ∧
    ["ÜBEL".toList,"Über".toList,"ÜBUNG".toList].Perm ["Über".toList,"ÜBUNG".toList,"ÜBEL".toList] ∧
    (commonStart ["ÜBEL".toList,"Über".toList,"ÜBUNG".toList]).length =
      (commonStart ["Über".toList,"ÜBUNG".toList,"ÜBEL".toList]).length := by
  obtain ⟨-,-,longest,order,-⟩ := commonStart_longest "Über".toList ["ÜBUNG".toList,"ÜBEL".toList]
  have each : ∀ w ∈ ["Über".toList,"ÜBUNG".toList,"ÜBEL".toList], equalIgnoringCase (w.take 2) "Üb".toList = true := by
    decide
  have moved : ["ÜBEL".toList,"Über".toList,"ÜBUNG".toList].Perm ["Über".toList,"ÜBUNG".toList,"ÜBEL".toList] := by
    decide
  exact ⟨each,longest "Üb".toList (by decide) each,moved,(order _ moved).1⟩

end TabCompletion.FixtureShell
