/-!
# Sets of tokens

A finite set of strings, kept as the list of its elements in ascending order by code point, so that
sets are compared and printed by their lists. `mem_ofList`, `mem_diff` and `mem_map` say what the
operations do to membership.
-/
namespace TabCompletion

structure TokenSet where
  /-- The elements in ascending order. -/
  toList : List String
  ascending : toList.Pairwise (· < ·)

namespace TokenSet

instance : DecidableEq TokenSet := fun a b =>
  if h : a.toList = b.toList then
    isTrue (by cases a; cases b; simp_all)
  else
    isFalse fun e => h (by rw [e])

instance : Repr TokenSet := ⟨fun s n => reprPrec s.toList n⟩

def empty : TokenSet := ⟨[],List.Pairwise.nil⟩

instance : Inhabited TokenSet := ⟨empty⟩

instance : Membership String TokenSet := ⟨fun s x => x ∈ s.toList⟩

instance (x : String) (s : TokenSet) : Decidable (x ∈ s) :=
  inferInstanceAs (Decidable (x ∈ s.toList))

def insertSorted (x : String) : List String → List String
  | [] => [x]
  | y :: ys => if x < y then x :: y :: ys else if y < x then y :: insertSorted x ys else y :: ys

theorem eq_of_not_lt {x y : String} (h : ¬x < y) (h' : ¬y < x) : x = y :=
  String.le_antisymm (String.not_lt.1 h') (String.not_lt.1 h)

theorem mem_insertSorted {x z : String} {ys : List String} :
    z ∈ insertSorted x ys ↔ z = x ∨ z ∈ ys := by
  induction ys with
  | nil => simp [insertSorted]
  | cons y ys ih =>
    unfold insertSorted
    split
    · simp
    · next h =>
      split
      · simp only [List.mem_cons,ih]
        constructor
        · rintro (h | h | h) <;> simp [h]
        · rintro (h | h | h) <;> simp [h]
      · next h' =>
        have : x = y := eq_of_not_lt h h'
        subst this
        simp

theorem pairwise_insertSorted {x : String} {ys : List String} (h : ys.Pairwise (· < ·)) :
    (insertSorted x ys).Pairwise (· < ·) := by
  induction ys with
  | nil => simp [insertSorted]
  | cons y ys ih =>
    have hy := List.pairwise_cons.1 h
    unfold insertSorted
    split
    · next hx =>
      refine List.pairwise_cons.2 ⟨?_,h⟩
      intro z hz
      rcases List.mem_cons.1 hz with rfl | hz
      · exact hx
      · exact String.lt_trans hx (hy.1 z hz)
    · split
      · next hx =>
        refine List.pairwise_cons.2 ⟨?_,ih hy.2⟩
        intro z hz
        rcases mem_insertSorted.1 hz with rfl | hz
        · exact hx
        · exact hy.1 z hz
      · exact h

def insert (x : String) (s : TokenSet) : TokenSet :=
  ⟨insertSorted x s.toList,pairwise_insertSorted s.ascending⟩

def ofList (xs : List String) : TokenSet := xs.foldr insert empty

def size (s : TokenSet) : Nat := s.toList.length

def isEmpty (s : TokenSet) : Bool := s.toList.isEmpty

def diff (s t : TokenSet) : TokenSet :=
  ⟨s.toList.filter (· ∉ t),s.ascending.filter _⟩

def map (f : String → String) (s : TokenSet) : TokenSet := ofList (s.toList.map f)

@[simp] theorem mem_toList {x : String} {s : TokenSet} : x ∈ s.toList ↔ x ∈ s := Iff.rfl

@[simp] theorem not_mem_empty {x : String} : ¬x ∈ empty := by
  intro h; exact absurd h (List.not_mem_nil)

@[simp] theorem mem_insert {x y : String} {s : TokenSet} : x ∈ insert y s ↔ x = y ∨ x ∈ s :=
  mem_insertSorted

@[simp] theorem mem_ofList {x : String} {xs : List String} : x ∈ ofList xs ↔ x ∈ xs := by
  induction xs with
  | nil => simp [ofList]
  | cons y ys ih =>
    rw [ofList,List.foldr_cons,mem_insert,← ofList,ih,List.mem_cons]

theorem insert_of_below {x : String} {s : TokenSet} (below : ∀ y ∈ s, x < y) :
    (insert x s).toList = x :: s.toList := by
  show insertSorted x s.toList = _
  cases elements : s.toList with
  | nil => rfl
  | cons y ys =>
    have first : y ∈ s := by
      show y ∈ s.toList
      rw [elements]
      exact List.mem_cons_self
    rw [insertSorted,if_pos (below y first)]

theorem toList_ofList {xs : List String} (ascending : xs.Pairwise (· < ·)) :
    (ofList xs).toList = xs := by
  induction xs with
  | nil => rfl
  | cons x xs ih =>
    obtain ⟨below,rest⟩ := List.pairwise_cons.mp ascending
    show (insert x (ofList xs)).toList = _
    rw [insert_of_below fun y member => below y (mem_ofList.mp member),ih rest]

@[simp] theorem ofList_toList (s : TokenSet) : ofList s.toList = s := by
  have same := toList_ofList s.ascending
  obtain ⟨xs,sorted⟩ := s
  cases made : ofList xs with
  | mk ys others =>
    rw [made] at same
    cases same
    rfl

@[simp] theorem mem_diff {x : String} {s t : TokenSet} : x ∈ s.diff t ↔ x ∈ s ∧ ¬x ∈ t := by
  show x ∈ s.toList.filter _ ↔ _
  simp [List.mem_filter]

@[simp] theorem mem_map {x : String} {f : String → String} {s : TokenSet} :
    x ∈ s.map f ↔ ∃ y, y ∈ s ∧ f y = x := by
  simp [map]

end TokenSet
end TabCompletion
