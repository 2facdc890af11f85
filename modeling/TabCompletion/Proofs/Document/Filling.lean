import TabCompletion.Proofs.Document.Grammar
import TabCompletion.Proofs.Text.Erasing

/-!
# Filled expectations as values

An expectation that was read may be filled with the name of a context. What comes of it can be read again, unless the
name is empty and a text to be inserted is nothing but placeholders (`Expectation.Vanishes`).
-/
namespace TabCompletion

/-- The text is the placeholder, some times in a row. -/
def OnlyPlaceholders (text : String) : Prop := ∃ n, text.toList = (List.replicate n contextPlaceholder.toList).flatten

/-- A filled text is empty if it was placeholders only and the name is empty. -/
theorem fillContext_eq_empty {context : Option String} {text : String} (nonempty : text ≠ "") :
    fillContext context text = "" ↔ context = some "" ∧ OnlyPlaceholders text := by
  have chars : text.toList ≠ [] := fun empty => nonempty (String.toList_eq_nil_iff.mp empty)
  have piece : contextPlaceholder.toList ≠ [] := by decide
  cases context with
  | none => simp [fillContext,nonempty]
  | some name =>
    rw [fillContext,Text.replace,String.ofList_eq_empty_iff,Option.some.injEq]
    by_cases empty : name = ""
    · subst empty
      have erased : Text.substitute contextPlaceholder.toList [] text.toList = [] ↔ OnlyPlaceholders text :=
        Text.removeAll_eq_nil piece
      simpa using erased
    · have something : name.toList ≠ [] := fun nothing => empty (String.toList_eq_nil_iff.mp nothing)
      have left : Text.substitute contextPlaceholder.toList name.toList text.toList ≠ [] :=
        Text.substitute_ne_nil something chars
      simp [left,empty]

namespace Expectation

/-- Some document is read as the expectation. -/
def Readable (e : Expectation) : Prop := ∃ n, read n = .ok e

/-- Filled with the name of the context, the text that is expected to be inserted is empty. -/
def Vanishes (context : Option String) : Expectation → Prop
  | immediate text => context = some "" ∧ OnlyPlaceholders text
  | _ => False

variable {e : Expectation} {context : Option String}

theorem Readable.nonempty (readable : e.Readable) : e ≠ .immediate "" := by
  obtain ⟨n,reads⟩ := readable
  obtain ⟨s,made⟩ := Record.finish_of_read reads
  obtain ⟨keeps,means⟩ := Spec.ofSpec_eq_ok.mp made
  rintro rfl
  cases means with
  | immediate set => exact keeps .emptyImmediate set

/-- An expectation that was read becomes the empty text just if it vanishes. -/
theorem Readable.withContext_eq (readable : e.Readable) : e.withContext context = .immediate "" ↔ e.Vanishes context := by
  have nonempty := readable.nonempty
  cases e with
  | immediate text =>
    have filled : text ≠ "" := by
      rintro rfl
      exact nonempty rfl
    rw [withContext,immediate.injEq,fillContext_eq_empty filled,Vanishes]
  | choices tokens ok => simp [withContext,Vanishes]
  | lines ls ok => simp [withContext,Vanishes]
  | noChoices => simp [withContext,Vanishes]

theorem Readable.reads_filled (readable : e.Readable) (stays : ¬e.Vanishes context) :
    Reads read (e.withContext context).toJson (.ok (e.withContext context)) :=
  reads_toJson (stays ∘ readable.withContext_eq.mp)

theorem Readable.refuses_filled (readable : e.Readable) (vanishes : e.Vanishes context) :
    Reads read (e.withContext context).toJson (.error (.rule .emptyImmediate)) := by
  rw [readable.withContext_eq.mpr vanishes]
  exact refuses_emptyImmediate

end Expectation
end TabCompletion
