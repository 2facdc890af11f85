import Mathlib.Data.List.Forall2
import Mathlib.Data.List.Perm.Basic
import TabCompletion.Document.Record

/-!
# Reading values

An object may be written with its fields in one order and kept in another. `Reads` says what a reader gives
for a value in whatever order the fields of its objects are. It goes up from scalars to lists
(`reads_list`) and to records: a record is read field by field (`Record.Filled.reads`), and where a field
is refused and no other one for another reason, the record is (`Record.Refused.reads`). A value of a union is
read like the alternative it names (`reads_alternative`).
-/
namespace TabCompletion

/-- The second value is the first one with the fields of its objects in another order. -/
inductive Json.Same : Json → Json → Prop where
  | refl (j : Json) : Same j j
  | arr {xs ys : List Json} (items : List.Forall₂ Same xs ys) : Same (.arr xs) (.arr ys)
  | obj {fields given others : List (String × Json)} (names : fields.map (·.1) = given.map (·.1))
      (values : List.Forall₂ Same (fields.map (·.2)) (given.map (·.2))) (order : given.Perm others) :
      Same (.obj fields) (.obj others)

theorem exists_of_forall₂ {α β : Type} {R : α → β → Prop} {xs : List α} {ys : List β} {y : β}
    (each : List.Forall₂ R xs ys) (member : y ∈ ys) : ∃ x ∈ xs, R x y := by
  induction each with
  | nil => cases member
  | @cons x z xs ys first later ih =>
    rcases List.mem_cons.mp member with rfl | member
    · exact ⟨x,List.mem_cons_self,first⟩
    · obtain ⟨x,among,related⟩ := ih member
      exact ⟨x,List.mem_cons_of_mem _ among,related⟩

namespace Json

variable {k : Json} {xs : List Json} {fields : List (String × Json)}

theorem same_arr (same : Same (.arr xs) k) : ∃ ys, k = .arr ys ∧ List.Forall₂ Same xs ys := by
  cases same with
  | refl => exact ⟨xs,rfl,List.forall₂_same.mpr fun x _ => .refl x⟩
  | arr items => exact ⟨_,rfl,items⟩

/-- In another order, an object has the same fields with values that are the same. -/
theorem same_obj (same : Same (.obj fields) k) : ∃ given others, k = .obj others ∧
    List.Forall₂ (fun f g => f.1 = g.1 ∧ Same f.2 g.2) fields given ∧ given.Perm others := by
  cases same with
  | refl => exact ⟨fields,fields,rfl,List.forall₂_same.mpr fun f _ => ⟨rfl,.refl f.2⟩,.refl fields⟩
  | @obj _ given others names values order =>
    rw [← List.forall₂_eq_eq_eq,List.forall₂_map_left_iff,List.forall₂_map_right_iff] at names
    rw [List.forall₂_map_left_iff,List.forall₂_map_right_iff] at values
    exact ⟨given,others,rfl,List.Forall₂.mp (fun f g name value => ⟨name,value⟩) names values,order⟩

/-- Fields with values that are the same have the same names. -/
theorem names_eq {given : List (String × Json)}
    (values : List.Forall₂ (fun f g => f.1 = g.1 ∧ Same f.2 g.2) fields given) : fields.map (·.1) = given.map (·.1) := by
  rw [← List.forall₂_eq_eq_eq,List.forall₂_map_left_iff,List.forall₂_map_right_iff]
  exact values.imp fun f g same => same.1

/-- In another order, an object has the same names, and the values under them are the same. -/
theorem same_fields (same : Same (.obj fields) k) : ∃ others, k = .obj others ∧
    (fields.map (·.1)).Perm (others.map (·.1)) ∧
    (∀ g ∈ others, ∃ f ∈ fields, f.1 = g.1 ∧ Same f.2 g.2) ∧ ∀ f ∈ fields, ∃ g ∈ others, f.1 = g.1 ∧ Same f.2 g.2 := by
  obtain ⟨given,others,rfl,values,order⟩ := same_obj same
  refine ⟨others,rfl,?_,fun g member => ?_,fun f member => ?_⟩
  · rw [names_eq values]
    exact order.map _
  · exact exists_of_forall₂ values (order.mem_iff.mpr member)
  · obtain ⟨g,among,related⟩ := exists_of_forall₂ values.flip member
    exact ⟨g,order.mem_iff.mp among,related⟩

end Json

theorem Node.ofItems_eq_map (items : List Json) : Node.ofItems items = items.map Node.ofJson := by
  induction items with
  | nil => rfl
  | cons item rest ih => rw [Node.ofItems,ih,List.map_cons]

theorem Node.ofFields_eq_map (fields : List (String × Json)) :
    Node.ofFields fields = fields.map fun f => (Node.str f.1, Node.ofJson f.2) := by
  induction fields with
  | nil => rfl
  | cons f rest ih => rw [Node.ofFields,ih,List.map_cons]

section Optional

variable {key name : String} {value : Option Json} {f : String × Json}

theorem mem_optional : f ∈ Json.optional key value ↔ ∃ v, value = some v ∧ f = (key, v) := by
  cases value <;> simp [Json.optional]

theorem mem_names_optional : name ∈ (Json.optional key value).map (·.1) ↔ name = key ∧ value.isSome := by
  cases value <;> simp [Json.optional]

theorem listed_optional (key : String) (value : Option Json) : ((Json.optional key value).map (·.1)).Sublist [key] := by
  cases value with
  | none => exact List.nil_sublist [key]
  | some v => exact List.Sublist.refl [key]

end Optional

/-! ## Scalars, options and lists -/

/-- However the objects in the value are ordered, the reader gives this result. -/
def Reads {α : Type} (read : Node → Reading α) (j : Json) (result : Reading α) : Prop :=
  ∀ k, j.Same k → read (.ofJson k) = result

section Values

variable {α : Type} {read : Node → Reading α} {e : Refusal}

theorem reads_string (s : String) : Reads Node.readString (.str s) (.ok s) := by
  intro k same
  cases same
  rfl

theorem reads_bool (b : Bool) : Reads Node.readBool (.bool b) (.ok b) := by
  intro k same
  cases same
  rfl

theorem reads_nat {n limit : Nat} (small : n ≤ limit) : Reads (Node.readNat limit) (.nat n) (.ok n) := by
  intro k same
  cases same
  have within : 0 ≤ (n : Int) ∧ (n : Int) ≤ limit := ⟨Int.natCast_nonneg n,Int.ofNat_le.mpr small⟩
  rw [Json.nat,Node.ofJson,Node.readNat,if_pos within,Int.toNat_natCast]

/-- A value that is there is read as it would be if it were required. -/
theorem reads_some {j : Json} {a : α} (there : j ≠ .null) (reads : Reads read j (.ok a)) :
    Reads (Node.readOption read) j (.ok (some a)) := by
  intro k same
  have present : (Node.ofJson k).isAbsent = false := by
    cases same with
    | refl => cases j <;> first | rfl | exact absurd rfl there
    | arr => rfl
    | obj => rfl
  have plain : Node.readOption read (.ofJson k) = (read (.ofJson k)).map some := by
    cases k with
    | null => cases present
    | _ => rfl
  rw [plain,reads k same]
  rfl

theorem reads_choice {choices : List (String × α)} {name : String} {a : α} (known : choices.lookup name = some a) :
    Reads (Node.readChoice choices) (.str name) (.ok a) := by
  intro k same
  cases same
  simp only [Node.ofJson,Node.readChoice,Node.readWord,known]

theorem readItems_of_each {nodes : List Node} {values : List α}
    (each : List.Forall₂ (fun n a => read n = .ok a) nodes values) : Node.readItems read nodes = .ok values := by
  induction each with
  | nil => rfl
  | cons first later ih => rw [Node.readItems,first,ih]

/-- A list is refused where an item is, if no other one is refused for another reason. -/
theorem readItems_of_refused {nodes : List Node} (each : ∀ n ∈ nodes, (∃ a, read n = .ok a) ∨ read n = .error e)
    (refused : ∃ n ∈ nodes, read n = .error e) : Node.readItems read nodes = .error e := by
  induction nodes with
  | nil =>
    obtain ⟨n,member,-⟩ := refused
    cases member
  | cons n rest ih =>
    obtain ⟨first,others⟩ := List.forall_mem_cons.mp each
    rw [Node.readItems]
    rcases first with ⟨a,reads⟩ | fails
    · have later : ∃ n ∈ rest, read n = .error e := by
        obtain ⟨m,member,fails⟩ := refused
        rcases List.mem_cons.mp member with rfl | member
        · rw [reads] at fails
          cases fails
        · exact ⟨m,member,fails⟩
      rw [reads,ih others later]
    · rw [fails]

theorem reads_list {items : List Json} {values : List α}
    (each : List.Forall₂ (fun j a => Reads read j (.ok a)) items values) :
    Reads (Node.readList read) (.arr items) (.ok values) := by
  intro k same
  obtain ⟨ys,rfl,sames⟩ := Json.same_arr same
  have nodes : List.Forall₂ (fun n a => read n = .ok a) (ys.map Node.ofJson) values := by
    rw [List.forall₂_map_left_iff]
    clear same
    induction sames generalizing values with
    | nil =>
      cases each
      exact .nil
    | cons first later ih =>
      cases each with
      | cons reads others => exact .cons (reads _ first) (ih others)
  rw [Node.ofJson,Node.readList,Node.ofItems_eq_map,readItems_of_each nodes]
  rfl

/-- Where each value is written by `write` and read as `again` says, a list of values is. -/
theorem reads_map_as {write : α → Json} {again : α → α} {values : List α}
    (each : ∀ a ∈ values, Reads read (write a) (.ok (again a))) :
    Reads (Node.readList read) (.arr (values.map write)) (.ok (values.map again)) := by
  refine reads_list ?_
  rw [List.forall₂_map_left_iff,List.forall₂_map_right_iff]
  exact List.forall₂_same.mpr each

/-- Each value is written by `write`, so a list of values is read back. -/
theorem reads_map {write : α → Json} {values : List α} (each : ∀ a ∈ values, Reads read (write a) (.ok a)) :
    Reads (Node.readList read) (.arr (values.map write)) (.ok values) := by
  have again := reads_map_as each
  rwa [List.map_id'] at again

theorem reads_strings (texts : List String) : Reads (Node.readList Node.readString) (.strs texts) (.ok texts) :=
  reads_map fun s _ => reads_string s

theorem reads_list_refused {items : List Json}
    (each : ∀ j ∈ items, (∃ a, Reads read j (.ok a)) ∨ Reads read j (.error e))
    (refused : ∃ j ∈ items, Reads read j (.error e)) : Reads (Node.readList read) (.arr items) (.error e) := by
  intro k same
  obtain ⟨ys,rfl,sames⟩ := Json.same_arr same
  have nodes : ∀ n ∈ ys.map Node.ofJson, (∃ a, read n = .ok a) ∨ read n = .error e := by
    refine List.forall_mem_map.mpr fun y member => ?_
    obtain ⟨j,among,related⟩ := exists_of_forall₂ sames member
    exact (each j among).imp (fun ⟨a,reads⟩ => ⟨a,reads y related⟩) (fun fails => fails y related)
  have bad : ∃ n ∈ ys.map Node.ofJson, read n = .error e := by
    obtain ⟨j,among,fails⟩ := refused
    obtain ⟨y,member,related⟩ := exists_of_forall₂ sames.flip among
    exact ⟨_,List.mem_map_of_mem member,fails y related⟩
  rw [Node.ofJson,Node.readList,Node.ofItems_eq_map,readItems_of_refused nodes bad]

/-- A list of written values is refused where a value is, if the others are read. -/
theorem reads_map_refused {write : α → Json} {again : α → α} {values : List α} {bad : α → Prop}
    (others : ∀ a ∈ values, ¬bad a → Reads read (write a) (.ok (again a)))
    (refused : ∀ a ∈ values, bad a → Reads read (write a) (.error e)) (oneBad : ∃ a ∈ values, bad a) :
    Reads (Node.readList read) (.arr (values.map write)) (.error e) := by
  refine reads_list_refused (List.forall_mem_map.mpr fun a member => ?_) ?_
  · by_cases here : bad a
    · exact .inr (refused a member here)
    · exact .inl ⟨again a,others a member here⟩
  · obtain ⟨a,member,here⟩ := oneBad
    exact ⟨write a,List.mem_map_of_mem member,refused a member here⟩

end Values

/-! ## Records -/

namespace Record

variable {π α : Type} {r : Record π α} {part : List String → π} {fields : List (String × Json)} {e : Refusal}

/-- The fields are in declared order, and each one is read into the partial value: `part seen` is what it is
    after the fields in `seen`. -/
structure Filled (r : Record π α) (part : List String → π) (fields : List (String × Json)) : Prop where
  names : r.names.Nodup
  listed : (fields.map (·.1)).Sublist r.names
  start : part [] = r.start
  put : ∀ f ∈ fields, ∀ seen, Reads (fun n => r.put f.1 n (part seen)) f.2 (.ok (part (f.1 :: seen)))

/-- The fields are in declared order; some field is refused, and no other one for another reason. -/
structure Refused (r : Record π α) (e : Refusal) (fields : List (String × Json)) : Prop where
  names : r.names.Nodup
  listed : (fields.map (·.1)).Sublist r.names
  each : ∀ f ∈ fields, ∀ p,
    (∃ q, Reads (fun n => r.put f.1 n p) f.2 (.ok q)) ∨ Reads (fun n => r.put f.1 n p) f.2 (.error e)
  fails : ∃ f ∈ fields, ∀ p, Reads (fun n => r.put f.1 n p) f.2 (.error e)

/-- All fields but the last one are read into their places, whatever was read before. -/
structure FilledBut (r : Record π α) (part : List String → π) (last : String × Json)
    (fields : List (String × Json)) : Prop where
  names : r.names.Nodup
  listed : ((fields ++ [last]).map (·.1)).Sublist r.names
  start : part [] = r.start
  put : ∀ f ∈ fields, ∃ set : π → π, (∀ p, Reads (fun n => r.put f.1 n p) f.2 (.ok (set p))) ∧
    ∀ seen, set (part seen) = part (f.1 :: seen)

/-- All fields but one are read into their places, whatever was read before. -/
structure FilledAround (r : Record π α) (part : List String → π) (one : String × Json)
    (before after : List (String × Json)) : Prop where
  names : r.names.Nodup
  listed : ((before ++ one :: after).map (·.1)).Sublist r.names
  start : part [] = r.start
  put : ∀ f ∈ before ++ after, ∃ set : π → π, (∀ p, Reads (fun n => r.put f.1 n p) f.2 (.ok (set p))) ∧
    ∀ seen, set (part seen) = part (f.1 :: seen)

section Around

variable {one last f : String × Json} {before after : List (String × Json)}

theorem mem_around (member : f ∈ before ++ one :: after) : f ∈ before ++ after ∨ f = one := by
  rw [List.mem_append,List.mem_cons] at member
  rw [List.mem_append]
  tauto

theorem FilledAround.filled (around : r.FilledAround part one before after)
    (put : ∀ seen, Reads (fun n => r.put one.1 n (part seen)) one.2 (.ok (part (one.1 :: seen)))) :
    r.Filled part (before ++ one :: after) := by
  refine ⟨around.names,around.listed,around.start,fun f member seen => ?_⟩
  rcases mem_around member with among | rfl
  · obtain ⟨set,reads,sets⟩ := around.put f among
    rw [← sets seen]
    exact reads (part seen)
  · exact put seen

theorem FilledAround.refused (around : r.FilledAround part one before after)
    (put : ∀ p, Reads (fun n => r.put one.1 n p) one.2 (.error e)) : r.Refused e (before ++ one :: after) := by
  refine ⟨around.names,around.listed,fun f member p => ?_,one,List.mem_append_right _ List.mem_cons_self,put⟩
  rcases mem_around member with among | rfl
  · obtain ⟨set,reads,-⟩ := around.put f among
    exact .inl ⟨set p,reads p⟩
  · exact .inr (put p)

theorem FilledBut.around (but : r.FilledBut part last fields) : r.FilledAround part last fields [] :=
  ⟨but.names,but.listed,but.start,fun f member => but.put f (by rwa [List.append_nil] at member)⟩

theorem FilledBut.filled (but : r.FilledBut part last fields)
    (put : ∀ seen, Reads (fun n => r.put last.1 n (part seen)) last.2 (.ok (part (last.1 :: seen)))) :
    r.Filled part (fields ++ [last]) := but.around.filled put

theorem FilledBut.refused (but : r.FilledBut part last fields)
    (put : ∀ p, Reads (fun n => r.put last.1 n p) last.2 (.error e)) : r.Refused e (fields ++ [last]) :=
  but.around.refused put

end Around

theorem readEntries_cons {name : String} {node : Node} {rest : List (Node × Node)} {seen : List String} {p : π}
    (known : name ∈ r.names) (fresh : name ∉ seen) : r.readEntries seen ((.str name, node) :: rest) p =
      (r.put name node p).bind (r.readEntries (name :: seen) rest) := by
  have inNames : r.names.contains name = true := List.contains_iff_mem.mpr known
  have notSeen : seen.contains name = false := by
    rw [Bool.eq_false_iff]
    exact fun again => fresh (List.contains_iff_mem.mp again)
  simp only [readEntries,Node.readString,inNames,notSeen,if_true,Bool.false_eq_true,if_false]
  cases r.put name node p <;> rfl

theorem fresh_cons {f : String × Json} {seen : List String} (other : f.1 ∉ fields.map (·.1))
    (fresh : ∀ g ∈ fields, g.1 ∉ seen) : ∀ g ∈ fields, g.1 ∉ f.1 :: seen := by
  intro g member again
  rcases List.mem_cons.mp again with same | again
  · exact other (List.mem_map.mpr ⟨g,member,same⟩)
  · exact fresh g member again

def entry (f : String × Json) : Node × Node := (.str f.1, .ofJson f.2)

theorem readEntries_of_puts {seen : List String} (known : ∀ f ∈ fields, f.1 ∈ r.names)
    (distinct : (fields.map (·.1)).Nodup) (fresh : ∀ f ∈ fields, f.1 ∉ seen)
    (put : ∀ f ∈ fields, ∀ seen, r.put f.1 (.ofJson f.2) (part seen) = .ok (part (f.1 :: seen))) :
    r.readEntries seen (fields.map entry) (part seen) = .ok (part ((fields.map (·.1)).reverse ++ seen)) := by
  induction fields generalizing seen with
  | nil => rfl
  | cons f rest ih =>
    obtain ⟨knownFirst,knownRest⟩ := List.forall_mem_cons.mp known
    obtain ⟨freshFirst,freshRest⟩ := List.forall_mem_cons.mp fresh
    obtain ⟨putFirst,putRest⟩ := List.forall_mem_cons.mp put
    obtain ⟨other,distinctRest⟩ := List.nodup_cons.mp distinct
    rw [List.map_cons,entry,readEntries_cons knownFirst freshFirst,putFirst]
    show r.readEntries (f.1 :: seen) (rest.map entry) (part (f.1 :: seen)) = _
    rw [ih knownRest distinctRest (fresh_cons other freshRest) putRest,List.map_cons,List.reverse_cons,List.append_assoc]
    rfl

theorem readEntries_of_refused {seen : List String} {p : π} (known : ∀ f ∈ fields, f.1 ∈ r.names)
    (distinct : (fields.map (·.1)).Nodup) (fresh : ∀ f ∈ fields, f.1 ∉ seen)
    (each : ∀ f ∈ fields, ∀ p, (∃ q, r.put f.1 (.ofJson f.2) p = .ok q) ∨ r.put f.1 (.ofJson f.2) p = .error e)
    (oneFails : ∃ f ∈ fields, ∀ p, r.put f.1 (.ofJson f.2) p = .error e) :
    r.readEntries seen (fields.map entry) p = .error e := by
  -- Fields before the refused one may be read to any partial value, so the induction is for all of them.
  induction fields generalizing seen p with
  | nil =>
    obtain ⟨f,member,-⟩ := oneFails
    cases member
  | cons f rest ih =>
    obtain ⟨knownFirst,knownRest⟩ := List.forall_mem_cons.mp known
    obtain ⟨freshFirst,freshRest⟩ := List.forall_mem_cons.mp fresh
    obtain ⟨first,others⟩ := List.forall_mem_cons.mp each
    obtain ⟨other,distinctRest⟩ := List.nodup_cons.mp distinct
    rw [List.map_cons,entry,readEntries_cons knownFirst freshFirst]
    rcases first p with ⟨q,reads⟩ | fails
    · have later : ∃ g ∈ rest, ∀ p, r.put g.1 (.ofJson g.2) p = .error e := by
        obtain ⟨g,member,fails⟩ := oneFails
        rcases List.mem_cons.mp member with rfl | member
        · rw [fails p] at reads
          cases reads
        · exact ⟨g,member,fails⟩
      rw [reads]
      exact ih knownRest distinctRest (fresh_cons other freshRest) others later
    · rw [fails]
      rfl

theorem read_obj (r : Record π α) (fields : List (String × Json)) :
    r.read (.ofJson (.obj fields)) = (r.readEntries [] (fields.map entry) r.start).bind r.finish := by
  rw [Node.ofJson,Node.ofFields_eq_map]
  show r.readMap (fields.map entry) true = _
  rw [readMap]
  cases r.readEntries [] (fields.map entry) r.start <;> rfl

/-- A record whose fields are read is what its partial value with all of them is finished to. -/
theorem Filled.reads (filled : r.Filled part fields) {result : Reading α}
    (finish : ∀ seen, (∀ name, name ∈ seen ↔ name ∈ fields.map (·.1)) → r.finish (part seen) = result) :
    Reads r.read (.obj fields) result := by
  intro k same
  obtain ⟨others,rfl,names,values,-⟩ := Json.same_fields same
  have known : ∀ g ∈ others, g.1 ∈ r.names := fun g member =>
    filled.listed.subset (names.mem_iff.mpr (List.mem_map_of_mem member))
  have put : ∀ g ∈ others, ∀ seen, r.put g.1 (.ofJson g.2) (part seen) = .ok (part (g.1 :: seen)) := by
    intro g member seen
    obtain ⟨f,among,name,value⟩ := values g member
    rw [← name]
    exact filled.put f among seen g.2 value
  have distinct := names.nodup_iff.mp (filled.names.sublist filled.listed)
  have all := readEntries_of_puts known distinct (fun g _ => List.not_mem_nil) put
  rw [read_obj,← filled.start,all]
  refine finish _ fun name => ?_
  rw [List.append_nil,List.mem_reverse]
  exact names.mem_iff.symm

/-- A record is refused where a field is, if no other one is refused for another reason. -/
theorem Refused.reads (refused : r.Refused e fields) : Reads r.read (.obj fields) (.error e) := by
  intro k same
  obtain ⟨others,rfl,names,values,kept⟩ := Json.same_fields same
  have known : ∀ g ∈ others, g.1 ∈ r.names := fun g member =>
    refused.listed.subset (names.mem_iff.mpr (List.mem_map_of_mem member))
  have each : ∀ g ∈ others, ∀ p, (∃ q, r.put g.1 (.ofJson g.2) p = .ok q) ∨ r.put g.1 (.ofJson g.2) p = .error e := by
    intro g member p
    obtain ⟨f,among,name,value⟩ := values g member
    rw [← name]
    exact (refused.each f among p).imp (fun ⟨q,reads⟩ => ⟨q,reads g.2 value⟩) (fun fails => fails g.2 value)
  have oneFails : ∃ g ∈ others, ∀ p, r.put g.1 (.ofJson g.2) p = .error e := by
    obtain ⟨f,among,fails⟩ := refused.fails
    obtain ⟨g,member,name,value⟩ := kept f among
    refine ⟨g,member,fun p => ?_⟩
    rw [← name]
    exact fails p g.2 value
  have distinct := names.nodup_iff.mp (refused.names.sublist refused.listed)
  rw [read_obj,readEntries_of_refused known distinct (fun g _ => List.not_mem_nil) each oneFails]
  rfl

end Record

namespace Node

variable {tag : String} {fields : List (String × Json)}

theorem takeTag_next {f : String × Json} {found : Option Node} {entries : List (Node × Node)} (differs : tag ≠ f.1) :
    takeTag tag found (Record.entry f :: entries) =
      (takeTag tag found entries).map fun (taken, others) => (taken, Record.entry f :: others) := by
  have not : (f.1 == tag) = false := beq_false_of_ne differs.symm
  simp only [Record.entry,takeTag,not,Bool.false_eq_true,if_false]

/-- Without the tag among them, entries are left as they are. -/
theorem takeTag_other (found : Option Node) (other : tag ∉ fields.map (·.1)) :
    takeTag tag found (fields.map Record.entry) = some (found, fields.map Record.entry) := by
  induction fields with
  | nil => rfl
  | cons f rest ih =>
    rw [List.map_cons,List.mem_cons,not_or] at other
    rw [List.map_cons,takeTag_next other.1,ih other.2]
    rfl

/-- The one entry with the tag is taken out, wherever it stands. -/
theorem takeTag_of_one {before after : List (String × Json)} (value : Json) (first : tag ∉ before.map (·.1))
    (last : tag ∉ after.map (·.1)) : takeTag tag none ((before ++ (tag, value) :: after).map Record.entry) =
      some (some (.ofJson value), (before ++ after).map Record.entry) := by
  induction before with
  | nil =>
    have rest := takeTag_other (some (.ofJson value)) last
    simpa [Record.entry,takeTag] using rest
  | cons f rest ih =>
    rw [List.map_cons,List.mem_cons,not_or] at first
    rw [List.cons_append,List.map_cons,takeTag_next first.1,ih first.2]
    rfl

end Node

/-- An alternative of a union is found by its name, wherever the name stands among the fields; these are left. -/
theorem readUnion_of_same {tag name : String} {fields : List (String × Json)} {k : Json}
    (other : tag ∉ fields.map (·.1)) (same : Json.Same (.obj ((tag, .str name) :: fields)) k) :
    ∃ others, Json.Same (.obj fields) (.obj others) ∧
      (Node.ofJson k).readUnion tag = .ok (name, .ofJson (.obj others)) := by
  obtain ⟨_ | ⟨⟨t,v⟩,gs⟩,all,rfl,values,order⟩ := Json.same_obj same
  · cases values
  obtain ⟨⟨named,text⟩,rest⟩ := List.forall₂_cons.mp values
  obtain rfl : tag = t := named
  cases text
  obtain ⟨before,after,rfl⟩ := List.append_of_mem (order.mem_iff.mp List.mem_cons_self)
  have left : gs.Perm (before ++ after) := List.Perm.cons_inv (order.trans List.perm_middle)
  -- The other fields keep their names, so the tag is the name of one entry only.
  have absent : tag ∉ (before ++ after).map (·.1) := by
    rwa [Json.names_eq rest,(left.map _).mem_iff] at other
  rw [List.map_append,List.mem_append,not_or] at absent
  refine ⟨before ++ after,.obj (Json.names_eq rest) ?_ left,?_⟩
  · rw [List.forall₂_map_left_iff,List.forall₂_map_right_iff]
    exact rest.imp fun f g same => same.2
  · have taken := Node.takeTag_of_one (.str name) absent.1 absent.2
    have entries : ∀ fields, Node.ofFields fields = fields.map Record.entry := Node.ofFields_eq_map
    rw [Node.ofJson,Node.readUnion,entries,taken]
    simp [Node.ofJson,entries]

/-- A value of a union is read like its alternative. -/
theorem reads_alternative {α : Type} {tag name : String} {fields : List (String × Json)} {next : String × Node → Reading α}
    {result : Reading α} (other : tag ∉ fields.map (·.1)) (alternative : Reads (fun n => next (name, n)) (.obj fields) result) :
    Reads (fun n => n.readUnion tag >>= next) (.obj ((tag, .str name) :: fields)) result := by
  intro k same
  obtain ⟨others,rest,union⟩ := readUnion_of_same other same
  show (Node.ofJson k).readUnion tag >>= next = result
  rw [union]
  exact alternative _ rest

end TabCompletion
