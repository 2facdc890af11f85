import TabCompletion.Proofs.Dialogue
import TabCompletion.Proofs.Document.Reading

/-!
# Objects with fields of any kind

A closed record refuses fields it does not know. Of an object with any fields, `Record.readEntries_eq_ok` says when they
are read, and `Record.readEntries_error` where a refusal comes from. Where one component of the partial value stands for
one name (`Record.Part`), it is in the end what the value under that name is read as (`Record.Part.ends`).
-/
namespace TabCompletion

/-- In fields with different names, each is found by its name. -/
theorem lookup_of_mem {fields : List (String × Json)} {f : String × Json} (distinct : (fields.map (·.1)).Nodup)
    (member : f ∈ fields) : fields.lookup f.1 = some f.2 := by
  induction fields with
  | nil => cases member
  | cons g rest ih =>
    obtain ⟨other,later⟩ := List.nodup_cons.mp distinct
    obtain ⟨name,value⟩ := g
    rcases List.mem_cons.mp member with rfl | among
    · exact List.lookup_cons_self
    · have differs : f.1 ≠ name := by
        intro same
        exact other (List.mem_map.mpr ⟨f,among,same⟩)
      rw [List.lookup_cons,beq_false_of_ne differs]
      exact ih later among

theorem lookup_of_not_mem {fields : List (String × Json)} {name : String} (absent : name ∉ fields.map (·.1)) :
    fields.lookup name = none := by
  rw [List.lookup_eq_none_iff]
  intro f member
  have differs : name ≠ f.1 := by
    intro same
    exact absent (List.mem_map.mpr ⟨f,member,same.symm⟩)
  exact bne_iff_ne.mpr differs

/-- What a component is in the end: what the value that was found is read as, or what it was if none was found. -/
def Ends {β : Type} (read : Node → Reading β) (before : β) (found : Option Json) (after : β) : Prop :=
  match found with
  | none => after = before
  | some j => read (.ofJson j) = .ok after

namespace Record

variable {π α β : Type} {r : Record π α} {fields : List (String × Json)} {seen : List String} {p q : π}

/-- Reads fields into a partial value, whatever their names. -/
def putFields (r : Record π α) : List (String × Json) → π → Reading π
  | [], p => .ok p
  | f :: rest, p => r.put f.1 (.ofJson f.2) p >>= r.putFields rest

theorem readEntries_unknown {f : String × Json} {rest : List (Node × Node)} (closed : r.closed = true)
    (unknown : f.1 ∉ r.names) : r.readEntries seen (entry f :: rest) p = .error (.malformed "a known field") := by
  have notIn : r.names.contains f.1 = false := by
    rw [Bool.eq_false_iff]
    exact fun known => unknown (List.contains_iff_mem.mp known)
  simp only [readEntries,entry,Node.readString,notIn,closed,if_true,Bool.false_eq_true,if_false]

theorem readEntries_again {f : String × Json} {rest : List (Node × Node)} (known : f.1 ∈ r.names) (again : f.1 ∈ seen) :
    r.readEntries seen (entry f :: rest) p = .error (.malformed ("one field " ++ f.1)) := by
  have inNames : r.names.contains f.1 = true := List.contains_iff_mem.mpr known
  have inSeen : seen.contains f.1 = true := List.contains_iff_mem.mpr again
  simp only [readEntries,entry,Node.readString,inNames,inSeen,if_true]

theorem readEntries_next {f : String × Json} {rest : List (Node × Node)} (known : f.1 ∈ r.names) (fresh : f.1 ∉ seen) :
    r.readEntries seen (entry f :: rest) p = r.put f.1 (.ofJson f.2) p >>= r.readEntries (f.1 :: seen) rest :=
  readEntries_cons known fresh

/-- The fields of a closed record are read if all names are known and none comes twice, and the values are read. -/
theorem readEntries_eq_ok (closed : r.closed = true) : r.readEntries seen (fields.map entry) p = .ok q ↔
    (∀ f ∈ fields, f.1 ∈ r.names ∧ f.1 ∉ seen) ∧ (fields.map (·.1)).Nodup ∧ r.putFields fields p = .ok q := by
  induction fields generalizing seen p with
  | nil => simp [readEntries,putFields]
  | cons f rest ih =>
    rw [List.map_cons,List.forall_mem_cons,List.map_cons,List.nodup_cons]
    by_cases known : f.1 ∈ r.names
    · by_cases again : f.1 ∈ seen
      · simp [readEntries_again known again,again]
      · rw [readEntries_next known again,putFields,bind_eq_ok,bind_eq_ok]
        have fresh : (∀ g ∈ rest, g.1 ∈ r.names ∧ g.1 ∉ f.1 :: seen) ↔
            (∀ g ∈ rest, g.1 ∈ r.names ∧ g.1 ∉ seen) ∧ f.1 ∉ rest.map (·.1) := by
          constructor
          · intro each
            refine ⟨fun g member => ⟨(each g member).1,fun old => (each g member).2 (List.mem_cons_of_mem _ old)⟩,?_⟩
            intro member
            obtain ⟨g,among,same⟩ := List.mem_map.mp member
            exact (each g among).2 (same ▸ List.mem_cons_self)
          · rintro ⟨each,other⟩ g member
            refine ⟨(each g member).1,fun old => ?_⟩
            rcases List.mem_cons.mp old with same | old
            · exact other (List.mem_map.mpr ⟨g,member,same⟩)
            · exact (each g member).2 old
        simp only [ih,fresh]
        constructor
        · rintro ⟨next,put,⟨each,other⟩,distinct,later⟩
          exact ⟨⟨⟨known,again⟩,each⟩,⟨other,distinct⟩,next,put,later⟩
        · rintro ⟨⟨-,each⟩,⟨other,distinct⟩,next,put,later⟩
          exact ⟨next,put,⟨each,other⟩,distinct,later⟩
    · simp [readEntries_unknown closed known,known]

/-- Fields are refused for their form, or since the value of one of them is. -/
theorem readEntries_error {e : Refusal} (closed : r.closed = true)
    (fails : r.readEntries seen (fields.map entry) p = .error e) :
    (∃ expected, e = .malformed expected) ∨
      ∃ f ∈ fields, f.1 ∈ r.names ∧ ∃ before, r.put f.1 (.ofJson f.2) before = .error e := by
  induction fields generalizing seen p with
  | nil => cases fails
  | cons f rest ih =>
    rw [List.map_cons] at fails
    by_cases known : f.1 ∈ r.names
    · by_cases again : f.1 ∈ seen
      · rw [readEntries_again known again] at fails
        cases fails
        exact .inl ⟨_,rfl⟩
      · rw [readEntries_next known again] at fails
        rcases bind_eq_error.mp fails with here | ⟨next,-,later⟩
        · exact .inr ⟨f,List.mem_cons_self,known,p,here⟩
        · refine (ih later).imp_right fun ⟨g,member,refused⟩ => ?_
          exact ⟨g,List.mem_cons_of_mem _ member,refused⟩
    · rw [readEntries_unknown closed known] at fails
      cases fails
      exact .inl ⟨_,rfl⟩

theorem exists_putFields (each : ∀ f ∈ fields, ∀ p, ∃ q, r.put f.1 (.ofJson f.2) p = .ok q) (p : π) :
    ∃ q, r.putFields fields p = .ok q := by
  induction fields generalizing p with
  | nil => exact ⟨p,rfl⟩
  | cons f rest ih =>
    obtain ⟨first,others⟩ := List.forall_mem_cons.mp each
    obtain ⟨next,put⟩ := first p
    obtain ⟨q,later⟩ := ih others next
    exact ⟨q,bind_eq_ok.mpr ⟨next,put,later⟩⟩

/-- Whatever document a record is read from, it was finished from some partial value. -/
theorem finish_of_read {n : Node} {a : α} (reads : r.read n = .ok a) : ∃ p, r.finish p = .ok a := by
  have map : ∀ entries ended, r.readMap entries ended = .ok a → ∃ p, r.finish p = .ok a := by
    intro entries ended reads
    rw [readMap] at reads
    split at reads
    · cases reads
    · next all _ =>
      cases ended
      · cases reads
      · exact ⟨all,reads⟩
  cases n with
  | map entries ended => exact map entries ended reads
  | list positional items ended =>
    cases positional
    · cases reads
    · exact map _ _ reads
  | void => exact ⟨r.start,reads⟩
  | text content form tag =>
    simp only [read] at reads
    split at reads
    · exact ⟨r.start,reads⟩
    · cases reads
  | _ => cases reads

/-- The component `get` is what is read under the name, and no field of another name changes it. -/
structure Part (r : Record π α) (name : String) (read : Node → Reading β) (get : π → β) : Prop where
  own : ∀ n p, (r.put name n p).map get = read n
  others : ∀ other ∈ r.names, other ≠ name → ∀ n p q, r.put other n p = .ok q → get q = get p

namespace Part

variable {name : String} {read : Node → Reading β} {get : π → β}

theorem of_put {set : π → β → π} (put : ∀ n p, r.put name n p = read n >>= fun b => .ok (set p b))
    (got : ∀ p b, get (set p b) = b)
    (others : ∀ other ∈ r.names, other ≠ name → ∀ n p q, r.put other n p = .ok q → get q = get p) :
    r.Part name read get := by
  refine ⟨fun n p => ?_,others⟩
  rw [put]
  cases read n with
  | error e => rfl
  | ok b => exact congrArg Except.ok (got p b)

theorem get_eq (part : r.Part name read get) {n : Node} (put : r.put name n p = .ok q) : read n = .ok (get q) := by
  rw [← part.own n p,put]
  rfl

theorem put_ok (part : r.Part name read get) {n : Node} {b : β} (reads : read n = .ok b) (p : π) :
    ∃ q, r.put name n p = .ok q := by
  have own := part.own n p
  rw [reads] at own
  cases put : r.put name n p with
  | error e =>
    rw [put] at own
    cases own
  | ok q => exact ⟨q,rfl⟩

theorem put_error (part : r.Part name read get) {n : Node} {e : Refusal} (put : r.put name n p = .error e) :
    read n = .error e := by
  rw [← part.own n p,put]
  rfl

/-- A field that was found is put into any partial value if the component may end as something. -/
theorem put_found (part : r.Part name read get) {before b : β} {value : Json}
    (ends : Ends read before (fields.lookup name) b) (found : fields.lookup name = some value) (p : π) :
    ∃ q, r.put name (.ofJson value) p = .ok q := by
  rw [found] at ends
  exact part.put_ok ends p

theorem ends (part : r.Part name read get) (known : ∀ f ∈ fields, f.1 ∈ r.names) (distinct : (fields.map (·.1)).Nodup)
    (put : r.putFields fields p = .ok q) : Ends read (get p) (fields.lookup name) (get q) := by
  induction fields generalizing p with
  | nil =>
    cases put
    rfl
  | cons f rest ih =>
    obtain ⟨knownFirst,knownRest⟩ := List.forall_mem_cons.mp known
    obtain ⟨other,distinctRest⟩ := List.nodup_cons.mp distinct
    obtain ⟨next,here,later⟩ := bind_eq_ok.mp put
    have ends := ih knownRest distinctRest later
    by_cases same : f.1 = name
    · -- No later field has the name, so the component stays what is read here.
      subst same
      rw [lookup_of_not_mem other] at ends
      have kept : get q = get next := ends
      rw [lookup_of_mem distinct List.mem_cons_self,kept]
      exact part.get_eq here
    · obtain ⟨first,value⟩ := f
      rw [List.lookup_cons,beq_false_of_ne (Ne.symm same)]
      rwa [part.others _ knownFirst same _ _ _ here] at ends

end Part
end Record
end TabCompletion
