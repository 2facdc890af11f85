/-!
# Places in YAML text

A place knows what text comes after it, and its line and column. A line ends with CR LF, CR, LF, NEL
or one of the two Unicode separators; the separators stand for themselves and the others for LF.
-/
namespace TabCompletion.Yaml

inductive Fault where
  | character
  | start
  | keyExpected
  | entryNotAllowed
  | keyNotAllowed
  | valueNotAllowed
  | directive
  | anchor
  | tag
  | blockHeader
  | tabIndent
  | documentMark
  | unclosedQuote
  | escape
  | colon
  | unexpected
  | undefinedTag
  | unknownAnchor
  | exhausted
  deriving DecidableEq, Repr, Inhabited

/-- A place in a text: the text after it, how many characters come before it, and its line and
    column, both counted from zero. -/
structure Place where
  rest : List Char
  index : Nat := 0
  line : Nat := 0
  column : Nat := 0
  deriving DecidableEq, Repr, Inhabited

def isBreak (c : Char) : Bool :=
  c == '\r' || c == '\n' || c == '\u0085' || c == '\u2028' || c == '\u2029'

def isSpacing (c : Char) : Bool := c == ' ' || c == '\t'

def isNameChar (c : Char) : Bool :=
  ('0' ≤ c && c ≤ '9') || ('A' ≤ c && c ≤ 'Z') || ('a' ≤ c && c ≤ 'z') || c == '_' || c == '-'

namespace Place

def peek (p : Place) : Option Char := p.rest.head?

def peekAt (p : Place) (n : Nat) : Option Char := (p.rest.drop n).head?

def begins (p : Place) (c : Char) : Bool := p.peek == some c

/-- Whether there is nothing but a spacing character, the end of the line or of the text. -/
def isGap : Option Char → Bool
  | none => true
  | some c => isSpacing c || isBreak c

def isEnd : Option Char → Bool
  | none => true
  | some c => isBreak c

def skip (p : Place) : Place :=
  match p.rest with
  | [] => p
  | _ :: rest => { p with rest, index := p.index + 1, column := p.column + 1 }

def skipN (n : Nat) (p : Place) : Place :=
  { p with rest := p.rest.drop n, index := p.index + n, column := p.column + n }

/-- The line break at the place as it is read, and the place after it. -/
def readBreak (p : Place) : List Char × Place :=
  let next (size : Nat) : Place := ⟨p.rest.drop size,p.index + size,p.line + 1,0⟩
  match p.rest with
  | '\r' :: '\n' :: _ => (['\n'], next 2)
  | '\r' :: _ => (['\n'], next 1)
  | '\n' :: _ => (['\n'], next 1)
  | '\u0085' :: _ => (['\n'], next 1)
  | '\u2028' :: _ => (['\u2028'], next 1)
  | '\u2029' :: _ => (['\u2029'], next 1)
  | _ => ([], p)

def skipBreak (p : Place) : Place := p.readBreak.2

def readWhile (accept : Char → Bool) (p : Place) : List Char × Place :=
  let run := p.rest.takeWhile accept
  (run, p.skipN run.length)

def skipWhile (accept : Char → Bool) (p : Place) : Place := (p.readWhile accept).2

def skipLine (p : Place) : Place := p.skipWhile (!isBreak ·)

/-- Whether a line that begins here starts or ends a document. -/
def atDocumentMark (p : Place) : Bool :=
  p.column == 0 && (p.rest.take 3 == ['-','-','-'] || p.rest.take 3 == ['.','.','.']) &&
    isGap (p.peekAt 3)

/-- The place after the spaces, a comment and the break at the end of a line where nothing else may
    stand. -/
def finishLine (fault : Fault) (p : Place) : Except Fault Place :=
  let p := p.skipWhile isSpacing
  let p := if p.begins '#' then p.skipLine else p
  if isEnd p.peek then .ok p.skipBreak else .error fault

end Place
end TabCompletion.Yaml
