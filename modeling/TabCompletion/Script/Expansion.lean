import TabCompletion.Script.Arithmetic
import TabCompletion.Script.Glob
import TabCompletion.Script.State
import TabCompletion.Text.Lines

/-!
# Expansion of words

A word becomes fields: parameters, output and arithmetic are put in, the unquoted ones are split at
the separators, and unquoted patterns are replaced by the files that match.
-/
namespace TabCompletion.Script

inductive Expanded where
  | text (s : String) (quoted : Bool) (split : Bool)
  | nextField
  deriving DecidableEq, Repr, Inhabited

namespace Expansion
open ShellM

def separators : ShellM (List Char) := return ((← lookupVariable "IFS").getD " \t\n").toList

/-- The number that a shell has in place of its process number. -/
def processNumber : Nat := 4242

def optionLetters (s : ShellState) : String :=
  (if s.exitOnError then "e" else "") ++ (if s.refuseUnset then "u" else "") ++
    (if s.trace then "x" else "")

def valueOf? (name : String) : ShellM (Option String) := do
  let s ← get
  match name with
  | "?" => return some (toString s.status)
  | "$" => return some (toString processNumber)
  | "#" => return some (toString s.parameters.length)
  | "-" => return some (optionLetters s)
  | "!" =>
    return if s.started = 0 then none else some (toString (processNumber + s.started))
  | "@" => return if s.parameters.isEmpty then none else some (" ".intercalate s.parameters)
  | "*" =>
    let separator := match (← separators).head? with
      | some c => String.singleton c
      | none => ""
    return if s.parameters.isEmpty then none else some (separator.intercalate s.parameters)
  | _ =>
    match name.toNat? with
    | some 0 => return some s.name
    | some (n + 1) => return s.parameters[n]?
    | none => lookupVariable name

def numberIn (bindings : List Variable) (name : String) : Except Arithmetic.Fault Int :=
  match (bindings.find? (·.name == name)).map (·.value) with
  | none => .ok 0
  | some value =>
    let digits := Text.trim value
    if digits.isEmpty then .ok 0
    else
      match Arithmetic.integer? digits with
      | some n => .ok n
      | none => .error (.notNumber value)

def arithmeticMessage (text : String) : Arithmetic.Fault → String
  | .expecting what => "arithmetic expression: expecting " ++ what ++ ": \"" ++ text ++ "\""
  | .divisionByZero => "arithmetic expression: division by zero: \"" ++ text ++ "\""
  | .notNumber value => "Illegal number: " ++ value

def withoutNewlines (text : String) : String :=
  String.ofList (text.toList.reverse.dropWhile (· == '\n')).reverse

def outputOf (ev : Evaluator) (script : String) : ShellM String := do
  let p ← subshell ev (runText ev false script)
  let (ending, bytes) ← lift (p.capture [])
  match ending with
  | .killed signal false => receive ev signal false
  | _ => pure ()
  modify fun s => { s with status := ending.status, expansionStatus := some ending.status }
  return withoutNewlines (Utf8.decodeLossy (bytes.filter (· != 0)))

/-- The beginnings or endings of a text, from short to long. -/
def ends (front : Bool) (cs : List Char) : List (List Char × List Char) :=
  (List.range (cs.length + 1)).map fun n =>
    if front then (cs.take n, cs.drop n) else (cs.drop (cs.length - n), cs.take (cs.length - n))

def trim (front longest : Bool) (pattern : List Marked) (text : String) : String :=
  let splits := ends front text.toList
  let splits := if longest then splits.reverse else splits
  match splits.find? fun (part, _) => Glob.isMatch pattern (String.ofList part) with
  | some (_, rest) => String.ofList rest
  | none => text

/-! ## Words -/

def markedOf : Expanded → List Marked
  | .text s quoted _ => s.toList.map (·, quoted)
  | .nextField => [(' ', true)]

def textOf (pieces : List Expanded) : String :=
  String.ofList (pieces.flatMap markedOf |>.map (·.1))

/-- The positional parameters, each in a field of its own. -/
def allParameters (quoted : Bool) : ShellM (List Expanded) := do
  let texts := (← get).parameters.map fun p => Expanded.text p quoted (!quoted)
  return texts.intersperse .nextField

/-- A part of a word, where `inner` expands a text that stands in double quotes, or in none. -/
def part (ev : Evaluator) (inner : (quoted : Bool) → String → ShellM (List Expanded)) :
    WordPart → ShellM (List Expanded)
  | .text s quoted => return [.text s quoted false]
  | .output script quoted => return [.text (← outputOf ev script) quoted (!quoted)]
  | .sum expression quoted => do
    let text := textOf (← inner true expression)
    match Arithmetic.evaluate (numberIn (← get).bindings) text with
    | .ok (n, assigned) =>
      assigned.forM fun (v, n) => setVariable v (toString n)
      return [.text (toString n) quoted (!quoted)]
    | .error f => fail (arithmeticMessage text f)
  | .parameter name form quoted => do
    let value ← valueOf? name
    let shown (text : String) : List Expanded := [.text text quoted (!quoted)]
    let other (text : String) : ShellM (List Expanded) := do
      return (← inner quoted text).map fun
        | .text s q _ => .text s q (!q)
        | p => p
    let isSet (whenEmpty : Bool) : Bool :=
      match value with
      | some v => !(whenEmpty && v.isEmpty)
      | none => false
    let missing : ShellM Unit := do
      if (← get).refuseUnset && value.isNone && !(["@","*","!"].contains name) then
        fail (name ++ ": parameter not set")
    match form with
    | .value =>
      missing
      if name == "@" || (name == "*" && !quoted) then allParameters quoted
      else return shown (value.getD "")
    | .length =>
      missing
      return shown (toString (value.getD "").length)
    | .orElse whenEmpty text =>
      if isSet whenEmpty then
        if name == "@" then allParameters quoted else return shown (value.getD "")
      else other text
    | .orAssign whenEmpty text =>
      if isSet whenEmpty then return shown (value.getD "")
      else
        let text := textOf (← inner quoted text)
        setVariable name text
        return shown text
    | .orFail whenEmpty text =>
      if isSet whenEmpty then return shown (value.getD "")
      else
        let text := textOf (← inner quoted text)
        fail (name ++ ": " ++
          (if !text.isEmpty then text
            else if whenEmpty then "parameter not set or null" else "parameter not set"))
    | .ifSet whenEmpty text => if isSet whenEmpty then other text else return shown ""
    | .trimmed front longest text =>
      missing
      let pattern := (← inner false text).flatMap markedOf
      return shown (trim front longest pattern (value.getD ""))

/-- The pieces of a word. Texts inside of expansions are words themselves, to some depth. -/
def pieces (ev : Evaluator) : Nat → Word → ShellM (List Expanded)
  | 0, _ => return []
  | depth + 1, w => do
    let inner (quoted : Bool) (text : String) : ShellM (List Expanded) :=
      match Token.innerWord quoted text with
      | .ok w => pieces ev depth w
      | .error f => fail f.message
    return (← w.mapM (part ev inner)).flatten

def depthLimit : Nat := 30

def tilde (home : Option String) : Word → Word
  | .text s false :: rest =>
    match s.toList, home with
    | ['~'], some h => if rest.isEmpty then [.text h true] else .text s false :: rest
    | '~' :: '/' :: more, some h =>
      .text h true :: .text (String.ofList ('/' :: more)) false :: rest
    | _, _ => .text s false :: rest
  | w => w

def expandPieces (ev : Evaluator) (w : Word) : ShellM (List Expanded) := do
  pieces ev depthLimit (tilde (← lookupVariable "HOME") w)

/-- Fields that are complete, and the one that is not, if any has begun. -/
structure Fields where
  complete : List (List Marked) := []
  open? : Option (List Marked) := none

namespace Fields

def close (f : Fields) : Fields := ⟨f.complete ++ f.open?.toList,none⟩

def add (f : Fields) (cs : List Marked) : Fields := { f with open? := some (f.open?.getD [] ++ cs) }

/-- Adds a character of a text that is split. A separator that is not white space ends a field even
    if nothing is in it. -/
def addSplit (separators : List Char) (f : Fields) (c : Char) : Fields :=
  if separators.contains c then
    if c.isWhitespace then f.close
    else ({ f with open? := some (f.open?.getD []) } : Fields).close
  else f.add [(c, false)]

def addPiece (separators : List Char) (f : Fields) : Expanded → Fields
  | .nextField => ({ f with open? := some (f.open?.getD []) } : Fields).close
  | .text s quoted split =>
    if split then s.toList.foldl (addSplit separators) f
    else if s.isEmpty && !quoted then f
    else f.add (s.toList.map (·, quoted))

end Fields

def fieldsOf (separators : List Char) (pieces : List Expanded) : List (List Marked) :=
  (pieces.foldl (Fields.addPiece separators) {}).close.complete

def fieldText (field : List Marked) : String := String.ofList (field.map (·.1))

/-- The files in a directory that a pattern matches. Names that begin with a full stop match only
    patterns that do. -/
def namesMatching (files : Files) (place : Location) (pattern : List Marked) : List String :=
  (files.names place).filter fun name =>
    Glob.isMatch pattern name &&
      (name.toList.head? != some '.' || (pattern.head?.map (·.1)) == some '.')

/-- The paths that a pattern stands for; the pattern itself if there are none. Only the last part of a
    path is a pattern. -/
def glob (files : Files) (directory : Location) (field : List Marked) : List String :=
  let last := (field.reverse.takeWhile (·.1 != '/')).reverse
  let front := fieldText (field.take (field.length - last.length))
  let place := if front.isEmpty then directory else Location.ofPath directory front
  match namesMatching files place last with
  | [] => [fieldText field]
  | names => names.map (front ++ ·)

def expand (ev : Evaluator) (w : Word) : ShellM (List String) := do
  let fields := fieldsOf (← separators) (← expandPieces ev w)
  if fields.any Glob.isPattern then
    let files ← lift Process.files
    let directory := (← get).directory
    return fields.flatMap fun field =>
      if Glob.isPattern field then glob files directory field else [fieldText field]
  else return fields.map fieldText

def expandAll (ev : Evaluator) (ws : List Word) : ShellM (List String) :=
  return (← ws.mapM (expand ev)).flatten

def expandText (ev : Evaluator) (w : Word) : ShellM String := return textOf (← expandPieces ev w)

def expandPattern (ev : Evaluator) (w : Word) : ShellM (List Marked) :=
  return (← expandPieces ev w).flatMap markedOf

end Expansion
end TabCompletion.Script
