import TabCompletion.Document.Record
import TabCompletion.Text.Lines
import TabCompletion.TokenSet

/-!
# Expectations

What a probe is expected to do: insert exactly one text, list a set of tokens, list lines, or offer
nothing. An expectation is written with six fields (`Spec`), of which exactly one group is set;
`Expectation.ofSpec` names the first rule that is broken otherwise. The context placeholder in
expected values stands for the name of the session's context.
-/
namespace TabCompletion

def contextPlaceholder : String := "\x7bcontext\x7d"

def fillContext (context : Option String) (text : String) : String :=
  match context with
  | some name => Text.replace contextPlaceholder name text
  | none => text

inductive Expectation where
  /-- Exactly this text is inserted after the first TAB. -/
  | immediate (text : String)
  /-- These tokens are listed after the second TAB, and others only if they are tolerated. -/
  | choices (tokens : TokenSet) (othersOk : Bool)
  | lines (lines : List String) (othersOk : Bool)
  | noChoices
  deriving DecidableEq, Repr, Inhabited

namespace Expectation

def withContext (context : Option String) : Expectation → Expectation
  | immediate text => .immediate (fillContext context text)
  | choices tokens ok => .choices (tokens.map (fillContext context)) ok
  | lines ls ok => .lines (ls.map (fillContext context)) ok
  | noChoices => .noChoices

structure Spec where
  immediate : Option String := none
  choices : Option (List String) := none
  otherChoicesOk : Bool := false
  lines : Option (List String) := none
  otherLinesOk : Bool := false
  noChoices : Bool := false

def Spec.groups (s : Spec) : Nat :=
  s.immediate.isSome.toNat + s.choices.isSome.toNat + s.lines.isSome.toNat + s.noChoices.toNat

/-- The expectation that the fields describe, or the first rule that they break. -/
def ofSpec (s : Spec) : Reading Expectation :=
  if s.groups ≠ 1 then .error (.rule .oneGroup)
  else if s.otherChoicesOk ∧ s.choices = none then .error (.rule .choicesFlag)
  else if s.otherLinesOk ∧ s.lines = none then .error (.rule .linesFlag)
  else
    match s.immediate, s.choices, s.lines with
    | some text, _, _ =>
      if text = "" then .error (.rule .emptyImmediate) else .ok (.immediate text)
    | none, some tokens, _ => .ok (.choices (TokenSet.ofList tokens) s.otherChoicesOk)
    | none, none, some ls => .ok (.lines ls s.otherLinesOk)
    | none, none, none => .ok .noChoices

/-- How the six fields are read; an absent value of `immediate`, `choices` or `lines` is as good as
    none. -/
def record : Record Spec Expectation where
  names := ["immediate","choices","other_choices_ok","lines","other_lines_ok","no_choices"]
  closed := true
  start := {}
  put
    | "immediate", n, s => return { s with immediate := ← n.readOption Node.readString }
    | "choices", n, s =>
      return { s with choices := ← n.readOption (Node.readList Node.readString) }
    | "other_choices_ok", n, s => return { s with otherChoicesOk := ← n.readBool }
    | "lines", n, s => return { s with lines := ← n.readOption (Node.readList Node.readString) }
    | "other_lines_ok", n, s => return { s with otherLinesOk := ← n.readBool }
    | _, n, s => return { s with noChoices := ← n.readBool }
  finish := ofSpec

def read (n : Node) : Reading Expectation := record.read n

/-- A flag that is written only if it is set. -/
def flag (name : String) (set : Bool) : List (String × Json) :=
  if set then [(name, .bool true)] else []

def toJson : Expectation → Json
  | immediate text => .obj [("immediate", .str text)]
  | choices tokens ok => .obj (("choices", .strs tokens.toList) :: flag "other_choices_ok" ok)
  | lines ls ok => .obj (("lines", .strs ls) :: flag "other_lines_ok" ok)
  | noChoices => .obj [("no_choices", .bool true)]

end Expectation
end TabCompletion
