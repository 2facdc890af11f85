import TabCompletion.Json.Basic

/-!
# Documents

A document is what a text in JSON or YAML says before it becomes a value: a tree of scalars, lists
and maps whose entries keep their order. Where a text stops being well formed, the tree ends in
`cut` and the lists and maps around it are not `ended`; so a reader meets what comes before the
fault before it meets the fault. `Node.ofJson` is the document of a JSON value, and a `Refusal` says
why a document is not read.
-/
namespace TabCompletion

inductive GrammarRule where
  | oneGroup
  /-- `other_choices_ok` stands beside `choices`. -/
  | choicesFlag
  | linesFlag
  /-- The text that must be inserted is not empty. -/
  | emptyImmediate
  deriving DecidableEq, Repr

def GrammarRule.message : GrammarRule → String
  | .oneGroup => "expectation must set exactly one of immediate, choices, lines, no_choices"
  | .choicesFlag => "other_choices_ok requires choices"
  | .linesFlag => "other_lines_ok requires lines"
  | .emptyImmediate => "immediate expectation must not be empty"

inductive Refusal where
  | malformed (expected : String)
  | rule (r : GrammarRule)
  deriving DecidableEq, Repr

def Refusal.message : Refusal → String
  | .malformed expected => "expected " ++ expected
  | .rule r => r.message

abbrev Reading := Except Refusal

inductive ScalarForm where
  | plain
  | literal
  | quoted
  deriving DecidableEq, Repr

inductive Node where
  | null
  | bool (b : Bool)
  | int (n : Int)
  | float (x : Float)
  | str (s : String)
  /-- A well-formed scalar without a value, such as text with half a surrogate pair. -/
  | unreadable
  /-- A scalar that gets its type from the reader. -/
  | text (content : String) (form : ScalarForm) (tag : Option String)
  /-- A list; a `positional` one may stand for a record. -/
  | list (positional : Bool) (items : List Node) (ended : Bool)
  | map (entries : List (Node × Node)) (ended : Bool)
  | void
  /-- The point where a text stops being well formed. -/
  | cut
  deriving Inhabited

namespace Node

mutual

def ofJson : Json → Node
  | .null => .null
  | .bool b => .bool b
  | .int n => .int n
  | .float x => .float x
  | .str s => .str s
  | .arr items => .list true (ofItems items) true
  | .obj fields => .map (ofFields fields) true

def ofItems : List Json → List Node
  | [] => []
  | item :: rest => ofJson item :: ofItems rest

def ofFields : List (String × Json) → List (Node × Node)
  | [] => []
  | (key, value) :: rest => (.str key, ofJson value) :: ofFields rest

end

/-- The texts that stand for no value in YAML. -/
def nullTexts : List String := ["null","Null","NULL","~"]

/-- An empty plain scalar, which serves as an empty list or map. -/
def isBlankScalar : Node → Bool
  | .text "" .plain _ => true
  | _ => false

def readString : Node → Reading String
  | .str s => .ok s
  | .text content _ _ => .ok content
  | _ => .error (.malformed "text")

/-- Whether an untyped scalar may be read as the type with the given tag: it is plain, or a literal
    block with that tag. -/
def mayBe (typeTag : String) : ScalarForm → Option String → Bool
  | .plain, _ => true
  | .literal, tag => tag == some typeTag
  | .quoted, _ => false

def readBool : Node → Reading Bool
  | .bool b => .ok b
  | .text content form tag =>
    if mayBe "tag:yaml.org,2002:bool" form tag then
      if ["true","True","TRUE"].contains content then .ok true
      else if ["false","False","FALSE"].contains content then .ok false
      else .error (.malformed "true or false")
    else .error (.malformed "true or false")
  | _ => .error (.malformed "true or false")

/-- The value of digits in a base, if there are any and all are digits of that base. -/
def digitsValue? (base : Nat) (cs : List Char) : Option Nat :=
  if cs.isEmpty then none
  else cs.foldlM (fun n c =>
    let d? :=
      if '0' ≤ c ∧ c ≤ '9' then some (c.toNat - '0'.toNat)
      else if 'a' ≤ c ∧ c ≤ 'z' then some (c.toNat - 'a'.toNat + 10)
      else if 'A' ≤ c ∧ c ≤ 'Z' then some (c.toNat - 'A'.toNat + 10)
      else none
    match d? with
    | some d => if d < base then some (n * base + d) else none
    | none => none) 0

/-- A whole number as YAML writes it: an optional plus sign, then digits, or digits of another base
    after `0x`, `0o` or `0b`; decimal digits do not begin with an idle zero. -/
def wholeNumber? (content : String) : Option Nat :=
  let unsigned := match content.toList with
    | '+' :: rest => rest
    | cs => cs
  match unsigned with
  | '0' :: 'x' :: rest => digitsValue? 16 rest
  | '0' :: 'o' :: rest => digitsValue? 8 rest
  | '0' :: 'b' :: rest => digitsValue? 2 rest
  | '0' :: _ :: _ => none
  | _ => digitsValue? 10 unsigned

def readNat (limit : Nat) : Node → Reading Nat
  | .int n =>
    if 0 ≤ n ∧ n ≤ limit then .ok n.toNat else .error (.malformed "a whole number in range")
  | .text content form tag =>
    match wholeNumber? content with
    | some n =>
      if mayBe "tag:yaml.org,2002:int" form tag ∧ n ≤ limit then .ok n
      else .error (.malformed "a whole number in range")
    | none => .error (.malformed "a whole number")
  | _ => .error (.malformed "a whole number")

/-- Whether the document stands for no value. A tagged plain scalar does so only with the tag of
    null. -/
def isAbsent : Node → Bool
  | .null => true
  | .void => true
  | .text content .plain none => content.isEmpty || nullTexts.contains content
  | .text content .plain (some tag) => tag == "tag:yaml.org,2002:null" && nullTexts.contains content
  | _ => false

def readOption {α : Type} (read : Node → Reading α) (n : Node) : Reading (Option α) :=
  if n.isAbsent then .ok none
  else match n with
    | .text _ .plain (some "tag:yaml.org,2002:null") => .error (.malformed "null")
    | n => (read n).map some

def readItems {α : Type} (read : Node → Reading α) : List Node → Reading (List α)
  | [] => .ok []
  | item :: rest =>
    match read item with
    | .error e => .error e
    | .ok a =>
      match readItems read rest with
      | .error e => .error e
      | .ok more => .ok (a :: more)

def readList {α : Type} (read : Node → Reading α) : Node → Reading (List α)
  | .list _ items ended =>
    match readItems read items with
    | .error e => .error e
    | .ok values => if ended then .ok values else .error (.malformed "the end of a list")
  | .void => .ok []
  | n => if n.isBlankScalar then .ok [] else .error (.malformed "a list")

/-- The entries of a map of texts, in order. -/
def readPairs : List (Node × Node) → Reading (List (String × String))
  | [] => .ok []
  | (key, value) :: rest =>
    match key.readString with
    | .error e => .error e
    | .ok k =>
      match value.readString with
      | .error e => .error e
      | .ok v =>
        match readPairs rest with
        | .error e => .error e
        | .ok more => .ok ((k, v) :: more)

def readTable : Node → Reading (List (String × String))
  | .map entries ended =>
    match readPairs entries with
    | .error e => .error e
    | .ok pairs => if ended then .ok pairs else .error (.malformed "the end of a map")
  | .void => .ok []
  | n => if n.isBlankScalar then .ok [] else .error (.malformed "a map")

/-- The word with which a document chooses one of several names: text, a map from the name to
    nothing, or a local tag on nothing. -/
def readWord : Node → Reading String
  | .str s => .ok s
  | .map [(.str s, .null)] true => .ok s
  | .text content form (some tag) =>
    match tag.toList with
    | '!' :: name =>
      if content.isEmpty ∨ (form = .plain ∧ nullTexts.contains content) then
        .ok (String.ofList name)
      else .error (.malformed "a name")
    | _ => .ok content
  | .text content _ none => .ok content
  | _ => .error (.malformed "a name")

def readChoice {α : Type} (choices : List (String × α)) (n : Node) : Reading α :=
  match n.readWord with
  | .error e => .error e
  | .ok name =>
    match choices.lookup name with
    | some a => .ok a
    | none => .error (.malformed "one of the known names")

end Node
end TabCompletion
