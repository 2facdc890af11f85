import Mathlib.Data.List.Forall2
import TabCompletion.Transport.Basic

/-!
# Patterns without choices

`Spells` says of an expression that it matches one word and nothing else. Such an expression has at
most one end at each place (`Spells.ends`), so the pattern is found where its word first stands
(`find?_eq_some_iff`), whatever else is in the bytes.
-/
namespace TabCompletion.Pattern

namespace Cursor

theorem advance_add (c : Cursor) (m n : Nat) : c.advance (m + n) = (c.advance m).advance n := by
  induction m generalizing c with
  | zero => simp [advance]
  | succ m ih =>
    rw [Nat.succ_add,advance,advance]
    cases next : c.next? with
    | some pair => exact ih pair.2
    | none =>
      -- At the end there is nowhere to go.
      cases n <;> simp [advance,next]

theorem after_advance (c : Cursor) (n : Nat) : (c.advance n).after = c.after.drop n := by
  induction n generalizing c with
  | zero => rfl
  | succ n ih =>
    obtain ⟨position,before,_ | ⟨b,rest⟩⟩ := c
    · rfl
    · exact ih ⟨position + 1,b :: before,rest⟩

theorem position_advance {c : Cursor} {n : Nat} (inside : n ≤ c.after.length) :
    (c.advance n).position = c.position + n := by
  induction n generalizing c with
  | zero => rfl
  | succ n ih =>
    obtain ⟨position,before,_ | ⟨b,rest⟩⟩ := c
    · cases inside
    · have moved := ih (c:=⟨position + 1,b :: before,rest⟩) (Nat.le_of_succ_le_succ inside)
      rw [Nat.add_right_comm] at moved
      exact moved

end Cursor

/-- The expression matches this word and nothing else. -/
inductive Expr.Spells : Expr → Bytes → Prop where
  | empty : Spells .empty []
  | byte (b : UInt8) : Spells (.byte b) [b]
  | group {body : Expr} {x : Bytes} (inside : body.Spells x) : Spells (.group false body) x
  | seq {first second : Expr} {x y : Bytes} (left : first.Spells x) (right : second.Spells y) :
      Spells (.seq first second) (x ++ y)

namespace Expr

variable {e : Expr} {word : Bytes}

theorem append_prefix_iff {x y bytes : Bytes} : x ++ y <+: bytes ↔ x <+: bytes ∧ y <+: bytes.drop x.length := by
  constructor
  · rintro ⟨rest,rfl⟩
    simp [List.append_assoc]
  · rintro ⟨⟨rest,rfl⟩,further⟩
    simpa [List.prefix_append_right_inj] using further

/-- The word ends where it stands, and nowhere else. -/
theorem Spells.ends (spells : e.Spells word) (c : Cursor) :
    e.ends c = if word <+: c.after then [c.advance word.length] else [] := by
  induction spells generalizing c with
  | empty => simp [Expr.ends,Cursor.advance]
  | byte b =>
    obtain ⟨position,before,_ | ⟨b',rest⟩⟩ := c
    · simp [Expr.ends,Cursor.next?]
    · simp [Expr.ends,Cursor.next?,Cursor.advance,List.cons_prefix_cons,eq_comm]
  | group _ ih => exact ih c
  | @seq first second x y left right ihLeft ihRight =>
    simp only [Expr.ends,ihLeft,append_prefix_iff]
    by_cases here : x <+: c.after
    · by_cases there : y <+: c.after.drop x.length <;>
        simp [here,there,ihRight,Cursor.after_advance,Cursor.advance_add,distinct]
    · simp [here,distinct]

theorem Spells.needsBefore (spells : e.Spells word) (after : Bytes) : e.needsBefore after = word ++ after := by
  induction spells generalizing after with
  | empty => rfl
  | byte b => rfl
  | group _ ih => exact ih after
  | seq left right ihLeft ihRight => rw [Expr.needsBefore,ihRight,ihLeft,List.append_assoc]

theorem Spells.needs (spells : e.Spells word) : e.needs = word := by
  rw [Expr.needs,spells.needsBefore,List.append_nil]

theorem Spells.foldl {es : List Expr} {words : List Bytes} (first : e.Spells word)
    (others : List.Forall₂ Spells es words) : (es.foldl .seq e).Spells (word ++ words.flatten) := by
  induction others generalizing e word with
  | nil => simpa using first
  | cons next _ ih => simpa using ih (first.seq next)

/-- Expressions one after the other spell their words one after the other. -/
theorem Spells.seqAll {es : List Expr} {words : List Bytes} (all : List.Forall₂ Spells es words) :
    (seqAll es).Spells words.flatten := by
  cases all with
  | nil => exact .empty
  | cons first others => exact first.foldl others

theorem spells_ofBytes (bytes : Bytes) : (ofBytes bytes).Spells bytes := by
  have each : List.Forall₂ Spells (bytes.map .byte) (bytes.map fun b => [b]) :=
    List.forall₂_map_left_iff.mpr (List.forall₂_map_right_iff.mpr (List.forall₂_same.mpr fun b _ => .byte b))
  have word := Spells.seqAll each
  rwa [← List.flatMap_def,List.flatMap_singleton'] at word

end Expr

/-! ## First occurrences -/

/-- The word stands in the bytes after `n` of them, and nowhere before. -/
structure FirstAt (word bytes : Bytes) (n : Nat) : Prop where
  here : word <+: bytes.drop n
  first : ∀ m < n, ¬word <+: bytes.drop m

namespace FirstAt

variable {word bytes rest : Bytes} {b : UInt8} {m n : Nat}

theorem start (here : word <+: bytes) : FirstAt word bytes 0 := ⟨here,nofun⟩

theorem cons_iff (other : ¬word <+: b :: rest) : FirstAt word (b :: rest) n ↔ ∃ k, n = k + 1 ∧ FirstAt word rest k := by
  constructor
  · rintro ⟨here,first⟩
    cases n with
    | zero => exact absurd here other
    | succ k => exact ⟨k,rfl,here,fun m before => first (m + 1) (Nat.succ_lt_succ before)⟩
  · rintro ⟨k,rfl,here,first⟩
    refine ⟨here,fun m before => ?_⟩
    cases m with
    | zero => exact other
    | succ m => exact first m (Nat.lt_of_succ_lt_succ before)

theorem unique (one : FirstAt word bytes m) (other : FirstAt word bytes n) : m = n := by
  rcases Nat.lt_trichotomy m n with before | same | after
  · exact absurd one.here (other.first m before)
  · exact same
  · exact absurd other.here (one.first n after)

theorem length_le (first : FirstAt word bytes n) : n + word.length ≤ bytes.length := by
  have fits := first.here.length_le
  rw [List.length_drop] at fits
  by_contra beyond
  -- Past the end only the empty word stands, which stands at the start already.
  have empty : word = [] := List.length_eq_zero_iff.mp (by omega)
  subst empty
  exact first.first 0 (by simp at beyond; omega) (List.nil_prefix)

/-- What comes after a word does not matter for where it first stands. -/
theorem append (first : FirstAt word bytes n) (more : Bytes) : FirstAt word (bytes ++ more) n := by
  have fits := first.length_le
  refine ⟨?_,fun m before there => first.first m before ?_⟩
  · rw [List.drop_append_of_le_length (by omega)]
    exact first.here.trans (List.prefix_append _ _)
  · rw [List.drop_append_of_le_length (by omega)] at there
    exact List.prefix_of_prefix_length_le there (List.prefix_append _ _) (by rw [List.length_drop]; omega)

/-- A word does not stand before its first byte does. -/
theorem after_other {lead tail : Bytes} (absent : b ∉ lead) :
    FirstAt (b :: word) (lead ++ b :: word ++ tail) lead.length := by
  induction lead with
  | nil => exact .start (List.prefix_append _ _)
  | cons a lead ih =>
    obtain ⟨differs,further⟩ := not_or.mp fun among => absent (List.mem_cons.mpr among)
    exact (cons_iff fun here => differs (List.cons_prefix_cons.mp here).1).mpr ⟨_,rfl,ih further⟩

end FirstAt

/-- In a pattern for text a word must begin where a character does. -/
def Begins (text : Bool) (word : Bytes) : Prop :=
  text = true → ∃ b rest, word = b :: rest ∧ Cursor.isContinuation b = false

theorem Begins.isBoundary {text : Bool} {word : Bytes} {c : Cursor} (begins : Begins text word) (here : word <+: c.after) :
    (text && !c.isBoundary) = false := by
  cases text with
  | false => rfl
  | true =>
    obtain ⟨b,rest,rfl,starts⟩ := begins rfl
    obtain ⟨more,after⟩ := here
    simp [Cursor.isBoundary,← after,starts]

namespace Expr.Spells

variable {e : Expr} {text : Bool} {word : Bytes} {c : Cursor}

theorem findFrom_here (spells : e.Spells word) (begins : Begins text word) (bytes : Bytes) (here : word <+: c.after) :
    e.findFrom text bytes c = some (c.position, c.position + word.length) := by
  unfold Expr.findFrom
  simp [begins.isBoundary here,spells.ends,here,Cursor.position_advance here.length_le]

theorem findFrom_end (spells : e.Spells word) (other : ¬word <+: c.after) : e.findFrom text [] c = none := by
  unfold Expr.findFrom
  simp [spells.ends,other]

theorem findFrom_later (spells : e.Spells word) (other : ¬word <+: c.after) (b : UInt8) (rest : Bytes) :
    e.findFrom text (b :: rest) c = e.findFrom text rest ⟨c.position + 1,b :: c.before,rest⟩ := by
  conv_lhs => unfold Expr.findFrom
  simp [spells.ends,other]

/-- The search goes to the first place of the word. -/
theorem findFrom_eq_some_iff (spells : e.Spells word) (begins : Begins text word) (bytes : Bytes) (after : c.after = bytes)
    {i j : Nat} : e.findFrom text bytes c = some (i, j) ↔
      ∃ n, FirstAt word bytes n ∧ i = c.position + n ∧ j = i + word.length := by
  have found (bytes : Bytes) (c : Cursor) (after : c.after = bytes) (here : word <+: c.after) :
      e.findFrom text bytes c = some (i, j) ↔ ∃ n, FirstAt word bytes n ∧ i = c.position + n ∧ j = i + word.length := by
    rw [findFrom_here spells begins bytes here]
    constructor
    · rintro ⟨⟩
      exact ⟨0,.start (after ▸ here),rfl,rfl⟩
    · rintro ⟨n,first,rfl,rfl⟩
      obtain rfl := first.unique (.start (after ▸ here))
      rfl
  induction bytes generalizing c with
  | nil =>
    by_cases here : word <+: c.after
    · exact found [] c after here
    rw [findFrom_end spells here]
    refine ⟨nofun,fun ⟨n,first,_⟩ => absurd first.here ?_⟩
    rwa [List.drop_nil,← after]
  | cons b rest ih =>
    by_cases here : word <+: c.after
    · exact found (b :: rest) c after here
    rw [findFrom_later spells here]
    refine (ih (c:=⟨c.position + 1,b :: c.before,rest⟩) rfl).trans ?_
    rw [after] at here
    simp only [FirstAt.cons_iff here]
    constructor
    · rintro ⟨n,first,rfl,rfl⟩
      exact ⟨n + 1,⟨n,rfl,first⟩,by omega,rfl⟩
    · rintro ⟨-,⟨n,rfl,first⟩,rfl,rfl⟩
      exact ⟨n,first,by omega,rfl⟩

end Expr.Spells

variable {p : Pattern} {word bytes : Bytes}

/-- A pattern that spells a word is found where the word first stands. -/
theorem find?_eq_some_iff (spells : p.expr.Spells word) (begins : Begins p.text word) {i j : Nat} :
    p.find? bytes = some (i, j) ↔ FirstAt word bytes i ∧ j = i + word.length := by
  have search := spells.findFrom_eq_some_iff begins bytes (c:=.start bytes) rfl (i:=i) (j:=j)
  have start : (Cursor.start bytes).position = 0 := rfl
  simp only [start,Nat.zero_add] at search
  unfold find?
  rw [spells.needs]
  split
  next =>
    rw [search]
    exact ⟨fun ⟨n,first,same,length⟩ => ⟨same ▸ first,length⟩,fun ⟨first,length⟩ => ⟨i,first,rfl,length⟩⟩
  next absent =>
    refine ⟨nofun,fun ⟨first,_⟩ => absurd ?_ absent⟩
    exact List.isSublist_iff_sublist.mpr (first.here.sublist.trans (List.drop_sublist i bytes))

/-- What is received splits after the first place of the word. -/
theorem splitAfter?_eq_some_iff (spells : p.expr.Spells word) (begins : Begins p.text word) {upTo after : Bytes} :
    p.splitAfter? bytes = some (upTo, after) ↔
      ∃ lead, FirstAt word bytes lead.length ∧ upTo = lead ++ word ∧ bytes = lead ++ word ++ after := by
  unfold splitAfter?
  simp only [Option.map_eq_some_iff,Prod.exists,find?_eq_some_iff spells begins,Prod.mk.injEq]
  constructor
  · rintro ⟨i,-,⟨first,rfl⟩,rfl,rfl⟩
    obtain ⟨after,parts⟩ := first.here
    have length : (bytes.take i).length = i := List.length_take_of_le (by have := first.length_le; omega)
    refine ⟨bytes.take i,length.symm ▸ first,?_,?_⟩
    · rw [List.take_add,← parts,List.take_left]
    · rw [← List.drop_drop,← parts,List.drop_left,List.append_assoc,parts,List.take_append_drop]
  · rintro ⟨lead,first,rfl,rfl⟩
    exact ⟨lead.length,_,⟨first,rfl⟩,by rw [← List.length_append,List.take_left],by rw [← List.length_append,List.drop_left]⟩

end TabCompletion.Pattern
