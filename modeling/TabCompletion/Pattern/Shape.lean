import TabCompletion.Pattern.Expr

/-!
# Shapes of patterns

An expression is simplified before an automaton is made of it. Bytes that stand side by side are one
word, alternatives that are single characters are one class, and what sequences in an alternation
begin with alike is written once, in front of it. A shape is what is left; the size of the automaton
is that of the shape.
-/
namespace TabCompletion.Pattern

/-- What is left of an expression. The rest of a sequence or of an alternation is its other parts:
    `seq a (seq b c)` has three. -/
inductive Shape where
  | empty
  | word (bytes : Bytes)
  | oneOf (words : List Bytes)
  | byteOf (set : CharSet)
  | charOf (set : CharSet)
  | look (l : Look)
  | group (body : Shape)
  | repeat (body : Shape) (least : Nat) (greatest : Option Nat) (greedy : Bool)
  | seq (first rest : Shape)
  | alt (first rest : Shape)
  deriving DecidableEq, Repr

namespace Shape

/-- Whether a match captures something. Two groups are never the same. -/
def captures : Shape → Bool
  | .group _ => true
  | .repeat body _ _ _ => body.captures
  | .seq first rest => first.captures || rest.captures
  | .alt first rest => first.captures || rest.captures
  | _ => false

def ofByteSet : CharSet → Shape
  | [(lo, hi)] => if lo = hi then .word [UInt8.ofNat lo] else .byteOf [(lo, hi)]
  | set => .byteOf set

def ofCharSet : CharSet → Shape
  | [] => .byteOf []
  | [(lo, hi)] => if lo = hi then .word (Utf8.encodeChar (Char.ofNat lo)) else .charOf [(lo, hi)]
  | set => .charOf set

def isAscii (set : CharSet) : Bool := set.all (·.2 < 0x80)

def word? : Shape → Option Bytes
  | .word bytes => some bytes
  | _ => none

/-- The character that a word is, if it is only one. -/
def char? : Shape → Option CharSet
  | .word bytes =>
    match Utf8.headChar? bytes with
    | some (c, []) => some (CharSet.single c.toNat)
    | _ => none
  | _ => none

def byte? : Shape → Option CharSet
  | .word [b] => some (CharSet.single b.toNat)
  | _ => none

/-- A class of characters, or one of bytes that are characters. -/
def charSet? : Shape → Option CharSet
  | .charOf set => some set
  | .byteOf set => if isAscii set then some set else none
  | _ => none

/-- A class of bytes, or one of characters that are bytes. -/
def byteSet? : Shape → Option CharSet
  | .byteOf set => some set
  | .charOf set => if isAscii set then some set else none
  | _ => none

/-- The class that alternatives are, if all of them are words of one character or byte, or all are
    classes. -/
def class? (shapes : List Shape) : Option Shape :=
  let chars (sets : List CharSet) : Shape := ofCharSet (CharSet.unionAll sets)
  let bytes (sets : List CharSet) : Shape := ofByteSet (CharSet.unionAll sets)
  (shapes.mapM char?).map chars <|> (shapes.mapM byte?).map bytes <|>
    (shapes.mapM charSet?).map chars <|> (shapes.mapM byteSet?).map bytes

def parts : Shape → List Shape
  | .empty => []
  | .seq first rest => first :: rest.parts
  | shape => [shape]

/-- The parts of a sequence; a shape that is none has no parts here. -/
def sequenceParts : Shape → List Shape
  | .seq first rest => first :: rest.parts
  | _ => []

def sequence : List Shape → Shape
  | [] => .empty
  | [shape] => shape
  | shape :: rest => .seq shape (sequence rest)

/-- A word before other parts. It is one with a word that comes first there. -/
def prependWord : Bytes → List Shape → List Shape
  | [], after => after
  | bytes, .word more :: after => .word (bytes ++ more) :: after
  | bytes, after => .word bytes :: after

def prepend : Shape → List Shape → List Shape
  | .empty, after => after
  | .word bytes, after => prependWord bytes after
  | shape, after => shape :: after

def alternatives : Shape → List Shape
  | .oneOf words => words.map .word
  | .alt first rest => first :: rest.alternatives
  | shape => [shape]

def choice : List Shape → Shape
  | [] => .byteOf []
  | [shape] => shape
  | shape :: rest => .alt shape (choice rest)

/-- What two lists of parts begin with alike. -/
def shared : List Shape → List Shape → List Shape
  | shape :: rest, shape' :: rest' =>
    if shape = shape' ∧ shape.captures = false then shape :: shared rest rest' else []
  | _, _ => []

/-- What alternatives begin with alike, if all of them are sequences. -/
def sharedByAll : List Shape → List Shape
  | [] => []
  | shape :: rest => rest.foldl (fun first shape' => shared first shape'.sequenceParts) shape.sequenceParts

/-- One of the alternatives, which share nothing at the start. -/
def oneOfAll (shapes : List Shape) : Shape :=
  match class? shapes with
  | some cls => cls
  | none =>
    match shapes.mapM word? with
    | some words => .oneOf words
    | none => choice shapes

def alternation (shapes : List Shape) : Shape :=
  let shapes := shapes.flatMap alternatives
  let first := sharedByAll shapes
  if first.isEmpty then oneOfAll shapes
  else
    let others := shapes.map fun shape => sequence (shape.parts.drop first.length)
    sequence (first ++ (oneOfAll (others.flatMap alternatives)).parts)

end Shape

namespace Expr

mutual

/-- The parts of the shape of an expression, before other parts. -/
def onto : Expr → List Shape → List Shape
  | .empty, after => after
  | .byte b, after => Shape.prependWord [b] after
  | .byteOf set, after => Shape.prepend (Shape.ofByteSet set) after
  | .charOf set, after => Shape.prepend (Shape.ofCharSet set) after
  | .look l, after => .look l :: after
  | .group captures body, after =>
    if captures then .group (Shape.sequence (body.onto [])) :: after else body.onto after
  | .repeat body least greatest greedy, after =>
    .repeat (Shape.sequence (body.onto [])) least greatest greedy :: after
  | .seq first second, after => first.onto (second.onto after)
  | .alt first second, after =>
    let others :=
      match second.furtherShapes with
      | [] => [Shape.sequence (second.onto [])]
      | shapes => shapes
    (Shape.alternation (Shape.sequence (first.onto []) :: others)).parts.foldr Shape.prepend after

/-- The shapes of the alternatives of an alternation that stands last in another one. -/
def furtherShapes : Expr → List Shape
  | .alt first second =>
    Shape.sequence (first.onto []) ::
      match second.furtherShapes with
      | [] => [Shape.sequence (second.onto [])]
      | shapes => shapes
  | _ => []

end

def shape (e : Expr) : Shape := Shape.sequence (e.onto [])

end Expr
end TabCompletion.Pattern
