import TabCompletion.Error
import TabCompletion.Proofs.Document.Reading
import TabCompletion.Proofs.Keys

/-!
# Free-form values

The objects in a free-form value are kept in ascending order of their keys (`Json.Ordered`). Such a value is read as
itself, in whatever order the fields of its objects come (`reads_json`).
-/
namespace TabCompletion

/-- The keys of each object in the value ascend. -/
inductive Json.Ordered : Json → Prop where
  | null : Ordered .null
  | bool (b : Bool) : Ordered (.bool b)
  | int (n : Int) : Ordered (.int n)
  | float (x : Float) : Ordered (.float x)
  | str (s : String) : Ordered (.str s)
  | arr {items : List Json} (each : ∀ j ∈ items, Ordered j) : Ordered (.arr items)
  | obj {fields : List (String × Json)} (ascend : KeysAscend fields) (each : ∀ f ∈ fields, Ordered f.2) :
      Ordered (.obj fields)

/-- A table of free-form values is one. -/
theorem Json.table_ordered {fields : List (String × Json)} (each : ∀ f ∈ fields, Ordered f.2) : (table fields).Ordered := by
  obtain ⟨ascend,given⟩ : _ ∧ ∀ f ∈ putAll [] fields, _ := putAll_ascend List.Pairwise.nil
  exact .obj ascend fun f member => each f ((given f member).resolve_left List.not_mem_nil)

/-- Ascending fields are the fields of their table, in whatever order they come. -/
theorem Json.table_of_perm {fields others : List (String × Json)} (ascend : KeysAscend fields)
    (order : fields.Perm others) : table others = .obj fields := by
  rw [table,putAll_of_perm ascend order]

namespace Node

theorem toItems?_of_each {given items : List Json}
    (each : List.Forall₂ (fun g j => (ofJson g).toJson? = some j) given items) : toItems? (ofItems given) = some items := by
  induction each with
  | nil => rfl
  | cons first later ih => rw [ofItems,toItems?,first,ih]

theorem toFields?_of_each {given fields : List (String × Json)}
    (each : List.Forall₂ (fun g f => g.1 = f.1 ∧ (ofJson g.2).toJson? = some f.2) given fields) :
    toFields? (ofFields given) = some fields := by
  induction each with
  | nil => rfl
  | cons first later ih =>
    obtain ⟨name,value⟩ := first
    rw [ofFields,toFields?,value,ih,name]

end Node

/-- A free-form value is read as itself. -/
theorem reads_json {j : Json} (ordered : j.Ordered) : Reads Node.readJson j (.ok j) := by
  have values : ∀ k, j.Same k → (Node.ofJson k).toJson? = some j := by
    induction ordered with
    | null | bool | int | float | str =>
      intro k same
      cases same
      rfl
    | arr each ih =>
      intro k same
      obtain ⟨ys,rfl,sames⟩ := Json.same_arr same
      have read := (List.forall₂_and_left _ _).mpr ⟨ih,sames⟩
      rw [Node.ofJson,Node.toJson?,Node.toItems?_of_each (read.flip.imp fun y _ both => both.1 y both.2)]
      rfl
    | obj ascend each ih =>
      intro k same
      obtain ⟨given,others,rfl,values,order⟩ := Json.same_obj same
      have read := (List.forall₂_and_left _ _).mpr ⟨ih,values⟩
      -- The fields are read in the order they come in, and put into the order of their keys.
      obtain ⟨fields,reads,kept⟩ := List.perm_comp_forall₂ order.symm read.flip
      have entries := Node.toFields?_of_each (reads.imp fun g _ both => ⟨both.2.1.symm,both.1 g.2 both.2.2⟩)
      rw [Node.ofJson,Node.toJson?,entries,Option.map_some,Json.table_of_perm ascend kept.symm]
  intro k same
  rw [Node.readJson,values k same]

end TabCompletion
