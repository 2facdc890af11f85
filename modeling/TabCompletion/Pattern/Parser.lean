import TabCompletion.Document.Node
import TabCompletion.Pattern.Fault
import TabCompletion.Pattern.Syntax
import TabCompletion.Text.Lines
import TabCompletion.Unicode.CaseFold
import TabCompletion.Unicode.Property
import TabCompletion.Unicode.Script

/-!
# Reading patterns

`Pattern.parse` gives the syntax of the text of a pattern. The reader holds the rest of the text,
whether blanks and comments between parts are ignored, and the group names in use. A `fuel` bounds
the recursion; the length of the text is enough, since every step takes a character.
-/
namespace TabCompletion.Pattern

structure Reader where
  rest : List Char
  verbose : Bool := false
  groupNames : List String := []

abbrev Parse := StateT Reader (Except Fault)

namespace Parse

/-- The rest of a text from the first character that is neither blank nor in a comment. -/
def skipFrom (inComment : Bool) : List Char → List Char
  | [] => []
  | c :: rest =>
    if inComment then skipFrom (c != '\n') rest
    else if Text.isBlank c then skipFrom false rest
    else if c == '#' then skipFrom true rest
    else c :: rest

def rest : Parse (List Char) := return (← get).rest

def goTo (cs : List Char) : Parse Unit := modify fun r => { r with rest := cs }

def peek? : Parse (Option Char) := return (← rest).head?

/-- Ignores blanks and comments, if they are to be ignored. -/
def skip : Parse Unit := modify fun r => if r.verbose then { r with rest := skipFrom false r.rest } else r

def bump : Parse Unit := modify fun r => { r with rest := r.rest.tail }

def bumpSkip : Parse Unit := do
  bump
  skip

/-- The next character, which must be there. -/
def need (fault : Fault) : Parse Char := do
  match ← peek? with
  | some c => return c
  | none => throw fault

def take? (s : String) : Parse Bool := do
  match Text.dropStart? s.toList (← rest) with
  | some cs => goTo cs; return true
  | none => return false

def digits : Nat → Parse (List Char)
  | 0 => return []
  | fuel + 1 => do
    match ← peek? with
    | some c =>
      if c.isDigit then
        bumpSkip
        return c :: (← digits fuel)
      else return []
    | none => return []

def blanks : Parse Unit := do goTo ((← rest).dropWhile Text.isBlank)

/-- Takes a decimal number between blanks; `none` if there are no digits. -/
def decimal : Parse (Option Nat) := do
  blanks
  let ds ← digits (← rest).length
  goTo ((← rest).dropWhile Text.isBlank)
  if ds.isEmpty then return none
  match Node.digitsValue? 10 ds with
  | some n => if n < 4294967296 then return some n else throw .invalidRepetition
  | none => throw .invalidRepetition

def count (fault : Fault) : Parse Nat := do
  match ← decimal with
  | some n => return n
  | none => throw fault

def flag? : Char → Option Flag
  | 'i' => some .caseInsensitive
  | 'm' => some .multiLine
  | 's' => some .dotMatchesNewLine
  | 'U' => some .swapGreed
  | 'u' => some .unicode
  | 'R' => some .crlf
  | 'x' => some .ignoreWhitespace
  | _ => none

/-- Takes flags up to a colon or a closing parenthesis. `cleared` says that a minus sign was read,
    `dangling` that it was the last character. -/
def flags : Nat → (cleared dangling : Bool) → FlagChange → Parse FlagChange
  | 0, _, _, _ => throw .invalidFlags
  | fuel + 1, cleared, dangling, soFar => do
    let c ← need .invalidFlags
    if c == ':' || c == ')' then
      if dangling then throw .invalidFlags else return soFar.reverse
    else if c == '-' then
      if cleared then throw .invalidFlags
      bump
      flags fuel true true soFar
    else
      match flag? c with
      | none => throw .invalidFlags
      | some f =>
        if soFar.any (·.1 == f) then throw .invalidFlags
        bump
        flags fuel cleared false ((f, !cleared) :: soFar)

def isNameChar (first : Bool) (c : Char) : Bool :=
  if first then c == '_' || Unicode.alphabetic.contains c.toNat
  else c == '_' || c == '.' || c == '[' || c == ']' || Unicode.alphanumeric.contains c.toNat

def groupName : Parse Unit := do
  let cs ← rest
  let name := cs.takeWhile (· != '>')
  let valid := match name with
    | [] => false
    | c :: more => isNameChar true c && more.all (isNameChar false)
  if !valid || (cs.drop name.length).isEmpty then throw .invalidGroupName
  let text := String.ofList name
  if (← get).groupNames.contains text then throw .duplicateGroupName
  modify fun r => { r with rest := cs.drop (name.length + 1), groupNames := text :: r.groupNames }

/-- What a parenthesis opens: a change of flags, or a group, which captures what it matches or has
    flags of its own. -/
inductive Opening where
  | change (flags : FlagChange)
  | group (captures : Bool) (flags : FlagChange)

def opening : Parse Opening := do
  bump
  skip
  if (← take? "?=") || (← take? "?!") || (← take? "?<=") || (← take? "?<!") then throw .lookAround
  if (← take? "?P<") || (← take? "?<") then
    groupName
    return .group true []
  else if ← take? "?" then
    if (← rest).isEmpty then throw .unclosedGroup
    let noneGiven := (← peek?) == some ')'
    let change ← flags ((← rest).length + 1) false false []
    let last ← need .invalidFlags
    bump
    if last == ')' then
      if noneGiven then throw .nothingToRepeat
      return .change change
    else return .group false change
  else return .group true []

/-! ## Escapes -/

inductive Primitive where
  | literal (l : Literal)
  | assertion (a : Assertion)
  | property (cls : PropertyClass)
  | shorthand (cls : Shorthand) (negated : Bool)

def codePoint (n : Nat) : Parse Char :=
  if n.isValidChar then return Char.ofNat n else throw .invalidCodePoint

/-- Takes `n` hexadecimal digits; each but the first may follow blanks that are ignored. -/
def hexDigits : Nat → Parse (List Char)
  | 0 => return []
  | n + 1 => do
    let c ← need .unfinishedEscape
    if (Node.digitsValue? 16 [c]).isNone then throw .invalidCodePoint
    bumpSkip
    return c :: (← hexDigits n)

def hexUntilBrace : Nat → Parse (List Char)
  | 0 => throw .unfinishedEscape
  | fuel + 1 => do
    let c ← need .unfinishedEscape
    if c == '\x7d' then return []
    if (Node.digitsValue? 16 [c]).isNone then throw .invalidCodePoint
    bumpSkip
    return c :: (← hexUntilBrace fuel)

/-- Takes a hexadecimal escape after its letter, of which `size` digits belong to it. -/
def hex (size : Nat) : Parse Literal := do
  bumpSkip
  let c ← need .unfinishedEscape
  if c == '\x7b' then
    bumpSkip
    let ds ← hexUntilBrace (← rest).length
    bumpSkip
    match Node.digitsValue? 16 ds with
    | some n => return ⟨← codePoint n,false⟩
    | none => throw .invalidCodePoint
  else
    let ds ← hexDigits size
    match Node.digitsValue? 16 ds with
    | some n => return ⟨← codePoint n,size == 2⟩
    | none => throw .invalidCodePoint

def untilBrace : Nat → Parse (List Char)
  | 0 => throw .unfinishedEscape
  | fuel + 1 => do
    let c ← need .unfinishedEscape
    if c == '\x7d' then return []
    bumpSkip
    return c :: (← untilBrace fuel)

/-- The property class of the text between braces. A name and a value may stand on the two sides of
    `!=`, `:` or `=`, which all mean the same: only the letter of the class negates it. -/
def propertyOf (negated : Bool) (cs : List Char) : PropertyClass :=
  let splitAt (size : Nat) (i : Nat) : PropertyClass :=
    ⟨String.ofList (cs.take i),some (String.ofList (cs.drop (i + size))),negated⟩
  let pairs := cs.zip (cs.drop 1)
  match pairs.findIdx? (· == ('!', '=')) with
  | some i => splitAt 2 i
  | none =>
    match cs.findIdx? (· == ':') with
    | some i => splitAt 1 i
    | none =>
      match cs.findIdx? (· == '=') with
      | some i => splitAt 1 i
      | none => ⟨String.ofList cs,none,negated⟩

def property (negated : Bool) : Parse PropertyClass := do
  bumpSkip
  let c ← need .unfinishedEscape
  if c == '\x7b' then
    bumpSkip
    let cs ← untilBrace (← rest).length
    bump
    return propertyOf negated cs
  else if c == '\\' then throw .unknownProperty
  else
    bumpSkip
    return ⟨String.singleton c,none,negated⟩

def boundaries : List (String × Assertion) :=
  [("start", .wordStart),("end", .wordEnd),("start-half", .wordStartHalf),
    ("end-half", .wordEndHalf)]

def boundaryName : Nat → Parse (List Char)
  | 0 => return []
  | fuel + 1 => do
    match ← peek? with
    | some c =>
      if c.isAlpha || c == '-' then
        bumpSkip
        return c :: (← boundaryName fuel)
      else return []
    | none => return []

/-- Takes the name of a word boundary in braces, if there is one; other braces are left alone. -/
def boundary : Parse Assertion := do
  let before ← rest
  match before with
  | '\x7b' :: _ =>
    bumpSkip
    let c ← need .invalidWordBoundary
    if !(c.isAlpha || c == '-') then
      goTo before
      return .wordBoundary
    let name ← boundaryName (← rest).length
    if (← peek?) != some '\x7d' then throw .invalidWordBoundary
    bump
    match boundaries.lookup (String.ofList name) with
    | some a => return a
    | none => throw .invalidWordBoundary
  | _ => return .wordBoundary

def escaped : Parse Primitive := do
  bump
  let c ← need .unfinishedEscape
  match c with
  | 'x' => return .literal (← hex 2)
  | 'u' => return .literal (← hex 4)
  | 'U' => return .literal (← hex 8)
  | 'p' => return .property (← property false)
  | 'P' => return .property (← property true)
  | c =>
    bump
    let plain (n : Nat) : Parse Primitive := return .literal ⟨Char.ofNat n,false⟩
    if c.isDigit then throw .backReference
    else
      match c with
      | 'd' => return .shorthand .digit false
      | 's' => return .shorthand .space false
      | 'w' => return .shorthand .word false
      | 'D' => return .shorthand .digit true
      | 'S' => return .shorthand .space true
      | 'W' => return .shorthand .word true
      | 'a' => plain 7
      | 'f' => plain 12
      | 't' => plain 9
      | 'n' => plain 10
      | 'r' => plain 13
      | 'v' => plain 11
      | 'A' => return .assertion .textStart
      | 'z' => return .assertion .textEnd
      | 'b' => return .assertion (← boundary)
      | 'B' => return .assertion .notWordBoundary
      | '<' => return .assertion .wordStart
      | '>' => return .assertion .wordEnd
      | c =>
        if c.toNat < 0x80 && !c.isAlpha then return .literal ⟨c,false⟩ else throw .unknownEscape

/-! ## Classes -/

/-- The character that decides, by what comes after a hyphen, whether the hyphen makes a range. Where
    blanks and comments are ignored, it is looked for past blanks and past the sign of a comment, but
    the text of the comment counts. -/
def decider? (verbose : Bool) (after : List Char) : Option Char :=
  if verbose then
    match after.dropWhile Text.isBlank with
    | '#' :: comment => (comment.dropWhile Text.isBlank).head?
    | next => next.head?
  else after.head?

def asciiClass? : Parse (Option ClassSet) := do
  let cs ← rest
  match cs with
  | '[' :: ':' :: more =>
    let (negated, more) := match more with
      | '^' :: more => (true, more)
      | more => (false, more)
    let name := String.ofList (more.takeWhile (· != ':'))
    match more.dropWhile (· != ':'), AsciiClass.all.find? (·.name == name) with
    | ':' :: ']' :: after, some cls =>
      goTo after
      return some (.ascii cls negated)
    | _, _ => return none
  | _ => return none

def classItem : Parse Primitive := do
  match ← need .unclosedClass with
  | '\\' => escaped
  | c =>
    bump
    return .literal ⟨c,false⟩

def classOf : Primitive → Parse ClassSet
  | .literal l => return .literal l
  | .property cls => return .property cls
  | .shorthand cls negated => return .shorthand cls negated
  | _ => throw .invalidClassItem

def literalOf : Primitive → Parse Literal
  | .literal l => return l
  | _ => throw .invalidClassItem

def classRange : Parse ClassSet := do
  let first ← classItem
  skip
  let c ← need .unclosedClass
  let next := decider? (← get).verbose (← rest).tail
  if c != '-' || next == some ']' || next == some '-' then classOf first
  else
    bumpSkip
    if (← rest).isEmpty then throw .unclosedClass
    let last ← classItem
    let a ← literalOf first
    let b ← literalOf last
    if a.char.toNat ≤ b.char.toNat then return .range a b else throw .invalidClassRange

def hyphens : Nat → Parse (List ClassSet)
  | 0 => throw .unclosedClass
  | fuel + 1 => do
    if (← need .unclosedClass) == '-' then
      bumpSkip
      return .literal ⟨'-',false⟩ :: (← hyphens fuel)
    else return []

/-- The class of the items between two operations, which were read in reverse order. -/
def unionOf (items : List ClassSet) : ClassSet :=
  match items with
  | [] => .empty
  | [item] => item
  | items => .union items.reverse

/-- The left side of an operation and the operation. -/
abbrev Pending := Option (ClassSet × ClassOp)

/-- An operation, if one is pending, on what was read after it. -/
def combine (pending : Pending) (items : List ClassSet) : ClassSet :=
  match pending with
  | none => unionOf items
  | some (left, op) => .binary op left (unionOf items)

mutual

def bracketed : Nat → Parse (Bool × ClassSet)
  | 0 => throw .unclosedClass
  | fuel + 1 => do
    bumpSkip
    let negated ← do
      if (← need .unclosedClass) == '^' then
        bumpSkip
        pure true
      else pure false
    let first ← hyphens ((← rest).length + 1)
    let first ← do
      if first.isEmpty && (← need .unclosedClass) == ']' then
        bumpSkip
        let _ ← need .unclosedClass
        pure [ClassSet.literal ⟨']',false⟩]
      else pure first
    let set ← classBody fuel none first.reverse
    return (negated, set)

def classBody : Nat → Pending → List ClassSet → Parse ClassSet
  | 0, _, _ => throw .unclosedClass
  | fuel + 1, pending, soFar => do
    skip
    let c ← need .unclosedClass
    let next := (← rest).tail.head?
    let operation (op : ClassOp) : Parse ClassSet := do
      bump
      bump
      classBody fuel (some (combine pending soFar, op)) []
    if c == '[' then
      match ← asciiClass? with
      | some cls => classBody fuel pending (cls :: soFar)
      | none =>
        let (negated, set) ← bracketed fuel
        classBody fuel pending (.bracketed negated set :: soFar)
    else if c == ']' then
      bump
      return combine pending soFar
    else if c == '&' && next == some '&' then operation .intersection
    else if c == '-' && next == some '-' then operation .difference
    else if c == '~' && next == some '~' then operation .symmetricDifference
    else
      let item ← classRange
      classBody fuel pending (item :: soFar)

end

/-- What is repeated: the part read last. -/
def repeated : List Syntax → Parse (Syntax × List Syntax)
  | .flags _ :: _ => throw .nothingToRepeat
  | .empty :: _ => throw .nothingToRepeat
  | part :: rest => return (part, rest)
  | [] => throw .nothingToRepeat

/-- Takes the question mark that makes a repetition lazy. -/
def greed : Parse Bool := do
  if (← peek?) == some '?' then
    bump
    return false
  else return true

def operator (least : Nat) (greatest : Option Nat) (parts : List Syntax) : Parse (List Syntax) := do
  let (part, rest) ← repeated parts
  bump
  return .repetition part least greatest (← greed) :: rest

def counted (parts : List Syntax) : Parse (List Syntax) := do
  let (part, others) ← repeated parts
  bumpSkip
  let _ ← need .unclosedRepetition
  let first ← decimal
  let required (n? : Option Nat) : Parse Nat := match n? with
    | some n => return n
    | none => throw .invalidRepetition
  let c ← need .unclosedRepetition
  let (least, greatest) ← do
    if c == ',' then
      bumpSkip
      if (← need .unclosedRepetition) == '\x7d' then pure (← required first, none)
      else
        let least ← required first
        pure (least, some (← count .invalidRepetition))
    else
      let n ← required first
      pure (n, some n)
  if (← peek?) != some '\x7d' then throw .unclosedRepetition
  bumpSkip
  let greedy ← greed
  if greatest.any (· < least) then throw .invalidRepetition
  return .repetition part least greatest greedy :: others

/-! ## Patterns -/

/-- The pattern of parts that were read in reverse order. -/
def concatOf (parts : List Syntax) : Syntax :=
  match parts with
  | [] => .empty
  | [part] => part
  | parts => .concat parts.reverse

/-- The pattern of alternatives that were read in reverse order, and of the last one. -/
def alternationOf (before : List Syntax) (parts : List Syntax) : Syntax :=
  match before with
  | [] => concatOf parts
  | before => .alternation (concatOf parts :: before).reverse

/-- Takes a part that is no group, class or operator. -/
def primitive : Parse Syntax := do
  match ← need .unfinishedEscape with
  | '\\' =>
    match ← escaped with
    | .literal l => return .literal l
    | .assertion a => return .assertion a
    | .property cls => return .property cls
    | .shorthand cls negated => return .shorthand cls negated
  | '.' => bump; return .dot
  | '^' => bump; return .assertion .lineStart
  | '$' => bump; return .assertion .lineEnd
  | c => bump; return .literal ⟨c,false⟩

/-- Takes a pattern up to the end of its group, or of the text if it is not `inGroup`; `before`
    holds the alternatives and `parts` the parts read so far. -/
def body : Nat → (inGroup : Bool) → (before parts : List Syntax) → Parse Syntax
  | 0, _, _, _ => throw .tooDeep
  | fuel + 1, inGroup, before, parts => do
    skip
    match ← peek? with
    | none => if inGroup then throw .unclosedGroup else return alternationOf before parts
    | some ')' =>
      if inGroup then
        bump
        return alternationOf before parts
      else throw .unopenedGroup
    | some '|' =>
      bump
      body fuel inGroup (concatOf parts :: before) []
    | some '(' =>
      match ← opening with
      | .change change =>
        match change.lookup .ignoreWhitespace with
        | some v => modify fun r => { r with verbose := v }
        | none => pure ()
        body fuel inGroup before (.flags change :: parts)
      | .group captures change =>
        let outer := (← get).verbose
        modify fun r => { r with verbose := (change.lookup .ignoreWhitespace).getD outer }
        let inner ← body fuel true [] []
        modify fun r => { r with verbose := outer }
        body fuel inGroup before (.group captures change inner :: parts)
    | some '[' =>
      let (negated, set) ← bracketed ((← rest).length + 1)
      body fuel inGroup before (.bracketed negated set :: parts)
    | some '?' => body fuel inGroup before (← operator 0 (some 1) parts)
    | some '*' => body fuel inGroup before (← operator 0 none parts)
    | some '+' => body fuel inGroup before (← operator 1 none parts)
    | some '\x7b' => body fuel inGroup before (← counted parts)
    | some _ => body fuel inGroup before ((← primitive) :: parts)

end Parse

def parse (source : String) : Except Fault Syntax := do
  let cs := source.toList
  let (result, _) ← (Parse.body (cs.length + 2) false [] []).run { rest := cs }
  if result.depth > depthLimit then throw .tooDeep
  return result

end TabCompletion.Pattern
