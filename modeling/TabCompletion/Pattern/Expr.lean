import TabCompletion.Pattern.Parser
import TabCompletion.Text.Utf8
import TabCompletion.Unicode.Age
import TabCompletion.Unicode.Segmentation

/-!
# Patterns over bytes

An expression says what bytes a pattern matches: single bytes, characters in UTF-8, positions, and
their combinations. `Expr.ofSyntax` resolves the flags, the classes and the case of a pattern. In a
pattern for text every match must be UTF-8.
-/
namespace TabCompletion.Pattern

/-- Where a position must be, with the flags resolved. `unicode` says that word characters are those
    of Unicode. -/
inductive Look where
  | textStart
  | textEnd
  | lineStart
  | lineEnd
  | lineStartCrlf
  | lineEndCrlf
  | word (edge : Assertion) (unicode : Bool)
  deriving DecidableEq, Repr

inductive Expr where
  | empty
  | byte (b : UInt8)
  | byteOf (set : CharSet)
  /-- One character of a set, in UTF-8. -/
  | charOf (set : CharSet)
  | look (l : Look)
  | group (captures : Bool) (body : Expr)
  | repeat (body : Expr) (least : Nat) (greatest : Option Nat) (greedy : Bool)
  | seq (first second : Expr)
  | alt (first second : Expr)
  deriving DecidableEq, Repr, Inhabited

structure Flags where
  caseInsensitive : Bool := false
  multiLine : Bool := false
  dotMatchesNewLine : Bool := false
  swapGreed : Bool := false
  unicode : Bool := true
  crlf : Bool := false

def Flags.apply (f : Flags) (change : FlagChange) : Flags :=
  change.foldl (fun f (flag, v) =>
    match flag with
    | .caseInsensitive => { f with caseInsensitive := v }
    | .multiLine => { f with multiLine := v }
    | .dotMatchesNewLine => { f with dotMatchesNewLine := v }
    | .swapGreed => { f with swapGreed := v }
    | .unicode => { f with unicode := v }
    | .crlf => { f with crlf := v }
    | .ignoreWhitespace => f) f

namespace Expr

def seqAll : List Expr → Expr
  | [] => .empty
  | e :: rest => rest.foldl .seq e

def ofBytes (bytes : Bytes) : Expr := seqAll (bytes.map .byte)

def altAll : List Expr → Expr
  | [] => .charOf []
  | [e] => e
  | e :: rest => .alt e (altAll rest)

def asciiSet : AsciiClass → CharSet
  | .alnum => [(0x30, 0x39),(0x41, 0x5A),(0x61, 0x7A)]
  | .alpha => [(0x41, 0x5A),(0x61, 0x7A)]
  | .ascii => [(0x00, 0x7F)]
  | .blank => [(0x09, 0x09),(0x20, 0x20)]
  | .cntrl => [(0x00, 0x1F),(0x7F, 0x7F)]
  | .digit => [(0x30, 0x39)]
  | .graph => [(0x21, 0x7E)]
  | .lower => [(0x61, 0x7A)]
  | .print => [(0x20, 0x7E)]
  | .punct => [(0x21, 0x2F),(0x3A, 0x40),(0x5B, 0x60),(0x7B, 0x7E)]
  | .space => [(0x09, 0x0D),(0x20, 0x20)]
  | .upper => [(0x41, 0x5A)]
  | .word => [(0x30, 0x39),(0x41, 0x5A),(0x5F, 0x5F),(0x61, 0x7A)]
  | .xdigit => [(0x30, 0x39),(0x41, 0x46),(0x61, 0x66)]

def shorthandSet (unicode : Bool) : Shorthand → CharSet
  | .digit => if unicode then Unicode.digit else asciiSet .digit
  | .space => if unicode then Unicode.blank else asciiSet .space
  | .word => if unicode then Unicode.word else asciiSet .word

/-- The greatest element of a complement: a code point or a byte. -/
def greatest (unicode : Bool) : Nat := if unicode then CharSet.top else 0xFF

/-- The name of a property without case, separators and a leading `is`. -/
def looseName (name : String) : String :=
  let cs := name.toList.map Char.toLower
  let hasIs := cs.take 2 == ['i','s']
  let kept := ((if hasIs then cs.drop 2 else cs).filter fun c =>
    c != ' ' && c != '_' && c != '-' && c.toNat < 0x80)
  if hasIs && kept == ['c'] then "isc" else String.ofList kept

def categorySet? (name : String) : Option CharSet :=
  match name with
  | "any" => some [(0, CharSet.top)]
  | "assigned" => some (Unicode.Category.ofAbbreviation "Cn").complement
  | "ascii" => some [(0, 0x7F)]
  | name => Unicode.Category.find? name

/-- The characters of a property class, before it is negated. -/
def propertySet? (cls : PropertyClass) : Option CharSet :=
  match cls.value with
  | none =>
    let name := looseName cls.name
    let binary := if ["cf","sc","lc"].contains name then none else Unicode.Property.find? name
    match binary with
    | some set => some set
    | none =>
      match categorySet? name with
      | some set => some set
      | none => Unicode.Script.find? name
  | some value =>
    match looseName cls.name with
    | "gc" => categorySet? (looseName value)
    | "generalcategory" => categorySet? (looseName value)
    | "sc" => Unicode.Script.find? (looseName value)
    | "script" => Unicode.Script.find? (looseName value)
    | "scx" => Unicode.Script.findExtended? (looseName value)
    | "scriptextensions" => Unicode.Script.findExtended? (looseName value)
    | "age" => Unicode.Age.find? (looseName value)
    | "gcb" => Unicode.Segmentation.grapheme? (looseName value)
    | "graphemeclusterbreak" => Unicode.Segmentation.grapheme? (looseName value)
    | "wb" => Unicode.Segmentation.word? (looseName value)
    | "wordbreak" => Unicode.Segmentation.word? (looseName value)
    | "sb" => Unicode.Segmentation.sentence? (looseName value)
    | "sentencebreak" => Unicode.Segmentation.sentence? (looseName value)
    | _ => none

/-- The set with the other case of its letters, if case does not matter. -/
def foldCase (f : Flags) (set : CharSet) : CharSet :=
  if !f.caseInsensitive then set
  else if f.unicode then Unicode.CaseFold.close set
  else
    let shifted (lo hi : Nat) (shift : Nat → Nat) : CharSet :=
      (set.inter [(lo, hi)]).map fun (a, b) => (shift a, shift b)
    CharSet.normalize (set ++ shifted 0x41 0x5A (· + 32) ++ shifted 0x61 0x7A (· - 32))

def negateIf (f : Flags) (negated : Bool) (set : CharSet) : CharSet :=
  if negated then set.complementUpTo (greatest f.unicode) else set

/-- The element that a character of a class stands for. -/
def classElement (text : Bool) (f : Flags) (l : Literal) : Except Fault Nat :=
  let n := l.char.toNat
  if f.unicode || n < 0x80 then .ok n
  else if !l.byte then .error .notUnicode
  else if text then .error .notUtf8
  else .ok n

/-- A set of bytes that a pattern for text may match. -/
def checkBytes (text : Bool) (f : Flags) (set : CharSet) : Except Fault CharSet :=
  if text && !f.unicode && set.any (fun r => r.2 > 0x7F) then .error .notUtf8 else .ok set

def propertyClass (f : Flags) (cls : PropertyClass) : Except Fault CharSet :=
  if !f.unicode then .error .notUnicode
  else
    match propertySet? cls with
    | some set => .ok (negateIf f cls.negated (foldCase f set))
    | none => .error .unknownProperty

def shorthandClass (text : Bool) (f : Flags) (cls : Shorthand) (negated : Bool) :
    Except Fault CharSet :=
  checkBytes text f (negateIf f negated (shorthandSet f.unicode cls))

mutual

def classSet (text : Bool) (f : Flags) : ClassSet → Except Fault CharSet
  | .empty => .ok []
  | .literal l => do
    let n ← classElement text f l
    return CharSet.single n
  | .range first last => do
    let a ← classElement text f first
    let b ← classElement text f last
    return CharSet.range a b
  | .ascii cls negated => checkBytes text f (negateIf f negated (foldCase f (asciiSet cls)))
  | .shorthand cls negated => shorthandClass text f cls negated
  | .property cls => propertyClass f cls
  | .bracketed negated set => do
    let inner ← classSet text f set
    checkBytes text f (negateIf f negated (foldCase f inner))
  | .union items => do
    let sets ← classSets text f items
    return CharSet.unionAll sets
  | .binary op left right => do
    let a ← classSet text f left
    let b ← classSet text f right
    let a := foldCase f a
    let b := foldCase f b
    return match op with
    | .intersection => a.inter b
    | .difference => a.difference b
    | .symmetricDifference => a.symmetricDifference b

def classSets (text : Bool) (f : Flags) : List ClassSet → Except Fault (List CharSet)
  | [] => .ok []
  | item :: rest => do
    let set ← classSet text f item
    let sets ← classSets text f rest
    return set :: sets

end

def ofSet (f : Flags) (set : CharSet) : Expr := if f.unicode then .charOf set else .byteOf set

/-! ## From the syntax -/

def ofLiteral (text : Bool) (f : Flags) (l : Literal) : Except Fault Expr :=
  let n := l.char.toNat
  if !f.unicode && l.byte && n > 0x7F then
    if text then .error .notUtf8 else .ok (.byte (UInt8.ofNat n))
  else
    let plain := ofBytes (Utf8.encodeChar l.char)
    if !f.caseInsensitive || (!f.unicode && n > 0x7F) then .ok plain
    else
      let set := foldCase f (CharSet.single n)
      .ok (if set = CharSet.single n then plain else ofSet f set)

def ofDot (text : Bool) (f : Flags) : Except Fault Expr :=
  if text && !f.unicode then .error .notUtf8
  else
    let left : CharSet :=
      if f.dotMatchesNewLine then []
      else if f.crlf then [(0x0A, 0x0A),(0x0D, 0x0D)]
      else [(0x0A, 0x0A)]
    .ok (ofSet f (left.complementUpTo (greatest f.unicode)))

def isEmptyOnly : Expr → Bool
  | .empty => true
  | .look _ => true
  | .group _ body => body.isEmptyOnly
  | .repeat body _ _ _ => body.isEmptyOnly
  | .seq first second => first.isEmptyOnly && second.isEmptyOnly
  | .alt first second => first.isEmptyOnly && second.isEmptyOnly
  | _ => false

/-- The repetition of an expression. More than one pass that matches nothing is as good as one, and
    a repetition of exactly one pass is the pass. -/
def repeated (body : Expr) (least : Nat) (greatest : Option Nat) (greedy : Bool) : Expr :=
  let (least, greatest) :=
    if body.isEmptyOnly then (min least 1, some (min (greatest.getD 1) 1)) else (least, greatest)
  if greatest = some 0 then .empty
  else if least = 1 ∧ greatest = some 1 then body
  else .repeat body least greatest greedy

def ofAssertion (f : Flags) : Assertion → Look
  | .lineStart =>
    if f.multiLine then (if f.crlf then .lineStartCrlf else .lineStart) else .textStart
  | .lineEnd => if f.multiLine then (if f.crlf then .lineEndCrlf else .lineEnd) else .textEnd
  | .textStart => .textStart
  | .textEnd => .textEnd
  | a => .word a f.unicode

mutual

/-- The expression of a pattern under the flags in force, and the flags after it. -/
def translate (text : Bool) (f : Flags) : Syntax → Except Fault (Expr × Flags)
  | .empty => .ok (.empty, f)
  | .flags change => .ok (.empty, f.apply change)
  | .literal l => do return (← ofLiteral text f l, f)
  | .dot => do return (← ofDot text f, f)
  | .assertion a => .ok (.look (ofAssertion f a), f)
  | .property cls => do return (ofSet f (← propertyClass f cls), f)
  | .shorthand cls negated => do return (ofSet f (← shorthandClass text f cls negated), f)
  | .bracketed negated set => do
    let inner ← classSet text f set
    return (ofSet f (← checkBytes text f (negateIf f negated (foldCase f inner))), f)
  | .repetition body least greatest greedy => do
    let (e, f') ← translate text f body
    return (repeated e least greatest (greedy != f'.swapGreed), f')
  | .group captures change body => do
    let (e, _) ← translate text (f.apply change) body
    return (.group captures e, f)
  | .alternation parts => do
    let (es, f') ← translateAll text f parts
    return (altAll es, f')
  | .concat parts => do
    let (es, f') ← translateAll text f parts
    return (seqAll es, f')

/-- The expressions of parts, each under the flags after the parts before it. -/
def translateAll (text : Bool) (f : Flags) : List Syntax → Except Fault (List Expr × Flags)
  | [] => .ok ([], f)
  | part :: rest => do
    let (e, f') ← translate text f part
    let (es, f'') ← translateAll text f' rest
    return (e :: es, f'')

end

/-- The expression of a pattern; in a pattern for text every match must be UTF-8. -/
def ofSyntax (text : Bool) (s : Syntax) : Except Fault Expr := do
  let (e, _) ← translate text {} s
  return e

end Expr
end TabCompletion.Pattern
