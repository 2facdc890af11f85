/-!
# Syntax of patterns

A pattern is written with literals, character classes, assertions, groups, alternatives and
repetitions. `Syntax` is what the text of a pattern says; flags may change in the middle of it, so
what a part matches is known only after `Pattern.Expr.ofSyntax`.
-/
namespace TabCompletion.Pattern

inductive Flag where
  | caseInsensitive
  | multiLine
  | dotMatchesNewLine
  | swapGreed
  | unicode
  | crlf
  | ignoreWhitespace
  deriving DecidableEq, Repr

abbrev FlagChange := List (Flag × Bool)

/-- The classes that have a letter: digits, blanks and word characters. -/
inductive Shorthand where
  | digit
  | space
  | word
  deriving DecidableEq, Repr

inductive AsciiClass where
  | alnum | alpha | ascii | blank | cntrl | digit | graph | lower | print | punct | space | upper
  | word | xdigit
  deriving DecidableEq, Repr

def AsciiClass.name : AsciiClass → String
  | alnum => "alnum"
  | alpha => "alpha"
  | ascii => "ascii"
  | blank => "blank"
  | cntrl => "cntrl"
  | digit => "digit"
  | graph => "graph"
  | lower => "lower"
  | print => "print"
  | punct => "punct"
  | space => "space"
  | upper => "upper"
  | word => "word"
  | xdigit => "xdigit"

def AsciiClass.all : List AsciiClass :=
  [alnum,alpha,ascii,blank,cntrl,digit,graph,lower,print,punct,space,upper,word,xdigit]

/-- A class of characters by a Unicode property: its name, the value after a separator if there is
    one, and whether the class is what lacks the property. -/
structure PropertyClass where
  name : String
  value : Option String
  negated : Bool
  deriving DecidableEq, Repr

/-- A character as it is written: `byte` says that it was written as two hexadecimal digits, which
    stand for a byte where characters are bytes. -/
structure Literal where
  char : Char
  byte : Bool
  deriving DecidableEq, Repr

inductive Assertion where
  | lineStart
  | lineEnd
  | textStart
  | textEnd
  | wordBoundary
  | notWordBoundary
  | wordStart
  | wordEnd
  | wordStartHalf
  | wordEndHalf
  deriving DecidableEq, Repr

inductive ClassOp where
  | intersection
  | difference
  | symmetricDifference
  deriving DecidableEq, Repr

inductive ClassSet where
  | empty
  | literal (l : Literal)
  | range (first last : Literal)
  | ascii (cls : AsciiClass) (negated : Bool)
  | shorthand (cls : Shorthand) (negated : Bool)
  | property (cls : PropertyClass)
  | bracketed (negated : Bool) (set : ClassSet)
  | union (items : List ClassSet)
  | binary (op : ClassOp) (left right : ClassSet)
  deriving Repr, Inhabited

inductive Syntax where
  | empty
  | flags (change : FlagChange)
  | literal (l : Literal)
  | dot
  | assertion (a : Assertion)
  | property (cls : PropertyClass)
  | shorthand (cls : Shorthand) (negated : Bool)
  | bracketed (negated : Bool) (set : ClassSet)
  | repetition (body : Syntax) (least : Nat) (greatest : Option Nat) (greedy : Bool)
  | group (captures : Bool) (change : FlagChange) (body : Syntax)
  | alternation (parts : List Syntax)
  | concat (parts : List Syntax)
  deriving Repr, Inhabited

mutual

def ClassSet.depth : ClassSet → Nat
  | .bracketed _ set => set.depth + 1
  | .union items => depthOfItems items + 1
  | .binary _ left right => max left.depth right.depth + 1
  | _ => 0

def ClassSet.depthOfItems : List ClassSet → Nat
  | [] => 0
  | item :: rest => max item.depth (depthOfItems rest)

end

mutual

def Syntax.depth : Syntax → Nat
  | .bracketed _ set => set.depth + 1
  | .repetition body _ _ _ => body.depth + 1
  | .group _ _ body => body.depth + 1
  | .alternation parts => depthOfParts parts + 1
  | .concat parts => depthOfParts parts + 1
  | _ => 0

def Syntax.depthOfParts : List Syntax → Nat
  | [] => 0
  | part :: rest => max part.depth (depthOfParts rest)

end

def depthLimit : Nat := 250

def metaCharacters : List Char :=
  ['\\','.','+','*','?','(',')','|','[',']','\x7b','\x7d','^','$','#','&','-','~']

/-- A pattern that matches exactly the text. -/
def escape (s : String) : String :=
  String.ofList <| s.toList.flatMap fun c => if metaCharacters.contains c then ['\\',c] else [c]

end TabCompletion.Pattern
