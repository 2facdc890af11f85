import TabCompletion.Expectation
import TabCompletion.Proofs.Document.Reading

/-!
# Expectations as values

An expectation is written with the fields of its `spec`, and it is made from these fields again
(`Expectation.reads_toJson`). The exception is an empty text, which breaks a rule of the grammar.
-/
namespace TabCompletion.Expectation

/-- The six fields an expectation is written with. -/
def spec : Expectation → Spec
  | immediate text => { immediate := some text }
  | choices tokens ok => { choices := some tokens.toList, otherChoicesOk := ok }
  | lines ls ok => { lines := some ls, otherLinesOk := ok }
  | noChoices => { noChoices := true }

/-- The fields that are not left out, in declared order. -/
def Spec.fields (s : Spec) : List (String × Json) :=
  Json.optional "immediate" (s.immediate.map .str) ++ Json.optional "choices" (s.choices.map .strs) ++
    flag "other_choices_ok" s.otherChoicesOk ++ Json.optional "lines" (s.lines.map .strs) ++
    flag "other_lines_ok" s.otherLinesOk ++ flag "no_choices" s.noChoices

theorem toJson_eq (e : Expectation) : e.toJson = .obj e.spec.fields := by
  cases e with
  | immediate text => rfl
  | choices tokens ok => cases ok <;> rfl
  | lines ls ok => cases ok <;> rfl
  | noChoices => rfl

/-- What was read of the fields when those in `seen` were. -/
def Spec.within (s : Spec) (seen : List String) : Spec where
  immediate := if "immediate" ∈ seen then s.immediate else none
  choices := if "choices" ∈ seen then s.choices else none
  otherChoicesOk := "other_choices_ok" ∈ seen && s.otherChoicesOk
  lines := if "lines" ∈ seen then s.lines else none
  otherLinesOk := "other_lines_ok" ∈ seen && s.otherLinesOk
  noChoices := "no_choices" ∈ seen && s.noChoices

theorem mem_flag {name : String} {set : Bool} {f : String × Json} :
    f ∈ flag name set ↔ set = true ∧ f = (name, .bool true) := by
  cases set <;> simp [flag]

theorem mem_names_flag {key name : String} {set : Bool} : name ∈ (flag key set).map (·.1) ↔ name = key ∧ set = true := by
  cases set <;> simp [flag]

theorem listed_flag (name : String) (set : Bool) : ((flag name set).map (·.1)).Sublist [name] := by
  cases set with
  | false => exact List.nil_sublist [name]
  | true => exact List.Sublist.refl [name]

namespace Spec

variable (s : Spec)

theorem listed : (s.fields.map (·.1)).Sublist record.names := by
  simp only [fields,List.map_append]
  exact (((((listed_optional _ _).append (listed_optional _ _)).append (listed_flag _ _)).append
    (listed_optional _ _)).append (listed_flag _ _)).append (listed_flag _ _)

/-- Each of the fields is read into its place. -/
theorem filled : record.Filled s.within s.fields where
  names := by decide
  listed := s.listed
  start := rfl
  put := by
    intro f member seen k same
    simp only [fields,List.mem_append,mem_optional,mem_flag,Option.map_eq_some_iff] at member
    rcases member with ((((⟨_,⟨text,is,rfl⟩,rfl⟩ | ⟨_,⟨tokens,is,rfl⟩,rfl⟩) | ⟨is,rfl⟩) | ⟨_,⟨ls,is,rfl⟩,rfl⟩) | ⟨is,rfl⟩) |
      ⟨is,rfl⟩
    · have reads := reads_some (by simp) (reads_string text) k same
      simp [record,reads,within,is]
    · have reads := reads_some (by simp [Json.strs]) (reads_strings tokens) k same
      simp [record,reads,within,is]
    · simp [record,reads_bool true k same,within,is]
    · have reads := reads_some (by simp [Json.strs]) (reads_strings ls) k same
      simp [record,reads,within,is]
    · simp [record,reads_bool true k same,within,is]
    · simp [record,reads_bool true k same,within,is]

/-- With all fields that were written, all is there. -/
theorem within_all {seen : List String} (all : ∀ name, name ∈ seen ↔ name ∈ s.fields.map (·.1)) : s.within seen = s := by
  simp only [fields,List.map_append,List.mem_append,mem_names_optional,mem_names_flag] at all
  obtain ⟨immediate,choices,otherChoicesOk,lines,otherLinesOk,noChoices⟩ := s
  cases immediate <;> cases choices <;> cases lines <;> simp [within,all]

end Spec

/-- The expectation is made from its fields again, unless it is the empty text. -/
theorem ofSpec_spec (e : Expectation) :
    ofSpec e.spec = if e = .immediate "" then .error (.rule .emptyImmediate) else .ok e := by
  cases e with
  | immediate text => simp [ofSpec,spec,Spec.groups]
  | choices tokens ok => simp [ofSpec,spec,Spec.groups]
  | lines ls ok => simp [ofSpec,spec,Spec.groups]
  | noChoices => simp [ofSpec,spec,Spec.groups]

/-- Written and read again, an expectation is the same. -/
theorem reads_toJson {e : Expectation} (nonempty : e ≠ .immediate "") : Reads read e.toJson (.ok e) := by
  rw [toJson_eq]
  refine e.spec.filled.reads fun seen all => ?_
  rw [e.spec.within_all all]
  exact (ofSpec_spec e).trans (if_neg nonempty)

/-- The expectation that an empty text is inserted is written, but not read. -/
theorem refuses_emptyImmediate : Reads read (immediate "").toJson (.error (.rule .emptyImmediate)) := by
  rw [toJson_eq]
  refine (immediate "").spec.filled.reads fun seen all => ?_
  rw [Spec.within_all _ all]
  rfl

end TabCompletion.Expectation
