import Mathlib.Data.List.Perm.Basic
import TabCompletion.Json.Basic

/-!
# Entries in order of their keys

Entries are put one by one at their places among ascending keys. None is lost if all keys are different
(`putAll_perm`), and entries with ascending keys are put together to themselves, in whatever order they come
(`putAll_of_perm`). The variables of a shell and the fields of free-form objects are put together like this.
Of two entries with one key the later counts (`lookup_putAll`).
-/
namespace TabCompletion

variable {β : Type} {key : String} {value : β} {entries pairs : List (String × β)}

/-- The keys are in ascending order, so no two are the same. -/
def KeysAscend (entries : List (String × β)) : Prop := entries.Pairwise fun a b => a.1 < b.1

theorem KeysAscend.nodup (ascend : KeysAscend entries) : (entries.map (·.1)).Nodup := by
  refine List.pairwise_map.mpr (ascend.imp fun {a b} below => ?_)
  intro same
  rw [same] at below
  exact String.lt_irrefl _ below

/-- An entry with a new key is put between the others. -/
theorem putEntry_perm (value : β) (new : key ∉ entries.map (·.1)) :
    (putEntry key value entries).Perm ((key, value) :: entries) := by
  induction entries with
  | nil => exact .refl _
  | cons first rest ih =>
    obtain ⟨k,v⟩ := first
    rw [List.map_cons,List.mem_cons,not_or] at new
    rw [putEntry]
    split
    · exact .refl _
    split
    · exact ((ih new.2).cons _).trans (.swap ..)
    next notBefore notAfter =>
      have same : key = k := String.le_antisymm (String.not_lt.mp notAfter) (String.not_lt.mp notBefore)
      exact absurd same new.1

theorem mem_putEntry {p : String × β} (member : p ∈ putEntry key value entries) : p = (key, value) ∨ p ∈ entries := by
  induction entries with
  | nil => exact .inl (List.mem_singleton.mp member)
  | cons first rest ih =>
    obtain ⟨k,v⟩ := first
    rw [putEntry] at member
    split at member
    · exact List.mem_cons.mp member
    split at member
    · rcases List.mem_cons.mp member with rfl | member
      · exact .inr List.mem_cons_self
      · exact (ih member).imp_right (List.mem_cons_of_mem _)
    · exact (List.mem_cons.mp member).imp_right (List.mem_cons_of_mem _)

theorem KeysAscend.putEntry (ascend : KeysAscend entries) (key : String) (value : β) :
    KeysAscend (putEntry key value entries) := by
  induction entries with
  | nil => exact List.pairwise_singleton _ _
  | cons first rest ih =>
    obtain ⟨k,v⟩ := first
    obtain ⟨below,others⟩ := List.pairwise_cons.mp ascend
    rw [TabCompletion.putEntry]
    split
    next before =>
      refine List.pairwise_cons.mpr ⟨?_,ascend⟩
      intro p member
      rcases List.mem_cons.mp member with rfl | member
      · exact before
      · exact String.lt_trans before (below p member)
    split
    next after =>
      refine List.pairwise_cons.mpr ⟨?_,ih others⟩
      intro p member
      rcases mem_putEntry member with rfl | member
      · exact after
      · exact below p member
    next notBefore notAfter =>
      obtain rfl : key = k := String.le_antisymm (String.not_lt.mp notAfter) (String.not_lt.mp notBefore)
      exact List.pairwise_cons.mpr ⟨below,others⟩

/-- Whatever is put together, the keys ascend, and each entry comes from one that was given. -/
theorem putAll_ascend (ascend : KeysAscend entries) : KeysAscend (putAll entries pairs) ∧
    ∀ p ∈ putAll entries pairs, p ∈ entries ∨ p ∈ pairs := by
  induction pairs generalizing entries with
  | nil => exact ⟨ascend,fun p member => .inl member⟩
  | cons first rest ih =>
    obtain ⟨sorted,given⟩ := ih (ascend.putEntry first.1 first.2)
    refine ⟨sorted,fun p member => ?_⟩
    rcases given p member with put | later
    · rcases mem_putEntry put with rfl | before
      · exact .inr List.mem_cons_self
      · exact .inl before
    · exact .inr (List.mem_cons_of_mem _ later)

/-- Entries that are put among ascending ones stay ascending, and none is lost if all keys are different. -/
theorem putAll_perm (ascend : KeysAscend entries) (distinct : ((entries ++ pairs).map (·.1)).Nodup) :
    KeysAscend (putAll entries pairs) ∧ (putAll entries pairs).Perm (entries ++ pairs) := by
  induction pairs generalizing entries with
  | nil => exact ⟨ascend,by rw [List.append_nil]; exact .refl _⟩
  | cons first rest ih =>
    obtain ⟨k,v⟩ := first
    -- The keys of those that were put and those that are left stay different together.
    have moved : (entries ++ (k, v) :: rest).Perm ((k, v) :: entries ++ rest) := List.perm_middle
    have new : k ∉ entries.map (·.1) := by
      have front := (moved.map (·.1)).nodup_iff.mp distinct
      rw [List.cons_append,List.map_cons,List.nodup_cons,List.map_append,List.mem_append,not_or] at front
      exact front.1.1
    have inserted := (putEntry_perm v new).append_right rest
    obtain ⟨sorted,kept⟩ := ih (ascend.putEntry k v)
      (((inserted.trans moved.symm).map (·.1)).nodup_iff.mpr distinct)
    exact ⟨sorted,kept.trans (inserted.trans moved.symm)⟩

/-- In whatever order entries with ascending keys come, they are put together to themselves. -/
theorem putAll_of_perm (ascend : KeysAscend entries) (order : entries.Perm pairs) : putAll [] pairs = entries := by
  have distinct := (order.map (·.1)).nodup_iff.mp ascend.nodup
  obtain ⟨sorted,kept⟩ := putAll_perm List.Pairwise.nil distinct
  refine List.Perm.eq_of_pairwise ?_ sorted ascend (kept.trans order.symm)
  intro a b _ _ below above
  exact absurd above (String.lt_asymm below)

theorem lookup_cons_eq (key k : String) (v : β) (rest : List (String × β)) :
    ((k, v) :: rest).lookup key = if key = k then some v else rest.lookup key := by
  by_cases same : key = k
  · subst same
    simp
  · have other : (key == k) = false := by simpa using same
    rw [List.lookup_cons,other,if_neg same]

theorem lookup_putEntry (key : String) (value : β) (entries : List (String × β)) (name : String) :
    (putEntry key value entries).lookup name = if name = key then some value else entries.lookup name := by
  induction entries with
  | nil => exact lookup_cons_eq name key value []
  | cons first rest ih =>
    obtain ⟨k,v⟩ := first
    rw [putEntry]
    split
    · rw [lookup_cons_eq]
    split
    next after =>
      rw [lookup_cons_eq,ih,lookup_cons_eq]
      by_cases same : name = k
      · have other : name ≠ key := by
          rintro rfl
          exact String.ne_of_lt after same.symm
        rw [if_pos same,if_neg other,if_pos same]
      · rw [if_neg same,if_neg same]
    next notBefore notAfter =>
      obtain rfl : key = k := String.le_antisymm (String.not_lt.mp notAfter) (String.not_lt.mp notBefore)
      rw [lookup_cons_eq,lookup_cons_eq]
      by_cases same : name = key
      · rw [if_pos same,if_pos same]
      · rw [if_neg same,if_neg same,if_neg same]

/-- Of two entries with one key the later counts. -/
theorem lookup_putAll (entries pairs : List (String × β)) (name : String) :
    (putAll entries pairs).lookup name = (pairs.reverse.lookup name).or (entries.lookup name) := by
  induction pairs generalizing entries with
  | nil => rfl
  | cons first rest ih =>
    have whole : putAll entries (first :: rest) = putAll (putEntry first.1 first.2 entries) rest := rfl
    rw [whole,ih,lookup_putEntry,List.reverse_cons,List.lookup_append,lookup_cons_eq,Option.or_assoc]
    by_cases same : name = first.1
    · rw [if_pos same,if_pos same,Option.some_or]
    · rw [if_neg same,if_neg same,List.lookup_nil,Option.none_or]

end TabCompletion
