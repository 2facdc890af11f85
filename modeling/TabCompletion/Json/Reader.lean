import TabCompletion.Document.Node
import TabCompletion.Text.Lines

/-!
# Reading JSON text

`Json.readText` gives the document of a text in JSON. The document of a text that stops being well
formed is cut there, and `clean` says whether nothing but blanks follows the document. Text with
half a surrogate pair and numbers beyond the range of floating-point numbers are well formed but
unreadable.
-/
namespace TabCompletion

structure DocumentText where
  root : Node
  clean : Bool

/-- Reads a value from a document that ends with its text. -/
def DocumentText.read {α : Type} (d : DocumentText) (read : Node → Reading α) : Reading α := do
  let value ← read d.root
  if d.clean then return value else .error (.malformed "the end of the text")

namespace Json

def skipBlanks (cs : List Char) : List Char :=
  cs.dropWhile fun c => c == ' ' || c == '\n' || c == '\t' || c == '\r'

inductive QuotedText where
  | text (s : String) (rest : List Char)
  | unreadable (rest : List Char)
  | cut

def fourDigits? : List Char → Option (Nat × List Char)
  | a :: b :: c :: d :: rest => (Node.digitsValue? 16 [a,b,c,d]).map fun n => (n, rest)
  | _ => none

inductive TextUnit where
  | char (c : Char)
  | unit (n : Nat)

def escapedChar? : Char → Option Char
  | '"' => some '"'
  | '\\' => some '\\'
  | '/' => some '/'
  | 'b' => some '\x08'
  | 'f' => some '\x0c'
  | 'n' => some '\n'
  | 'r' => some '\r'
  | 't' => some '\t'
  | _ => none

/-- The units up to the closing quote, and what follows it. -/
def textUnits? : Nat → List Char → List TextUnit → Option (List TextUnit × List Char)
  | 0, _, _ => none
  | _ + 1, [], _ => none
  | fuel + 1, c :: rest, soFar =>
    match c, rest with
    | '"', rest => some (soFar.reverse, rest)
    | '\\', 'u' :: digits =>
      match fourDigits? digits with
      | some (n, rest) => textUnits? fuel rest (.unit n :: soFar)
      | none => none
    | '\\', e :: rest =>
      match escapedChar? e with
      | some c => textUnits? fuel rest (.char c :: soFar)
      | none => none
    | '\\', [] => none
    | c, rest => if c.toNat < 0x20 then none else textUnits? fuel rest (.char c :: soFar)

/-- The characters of units: two halves of a surrogate pair are one character. -/
def unitChars? : List TextUnit → Option (List Char)
  | [] => some []
  | .char c :: rest => (unitChars? rest).map (c :: ·)
  | .unit n :: rest =>
    if 0xD800 ≤ n ∧ n < 0xDC00 then
      match rest with
      | .unit m :: more =>
        if 0xDC00 ≤ m ∧ m < 0xE000 then
          (unitChars? more).map (Char.ofNat (0x10000 + (n - 0xD800) * 0x400 + (m - 0xDC00)) :: ·)
        else none
      | _ => none
    else if 0xDC00 ≤ n ∧ n < 0xE000 then none
    else (unitChars? rest).map (Char.ofNat n :: ·)

def readQuoted (cs : List Char) : QuotedText :=
  match textUnits? (cs.length + 1) cs [] with
  | none => .cut
  | some (units, rest) =>
    match unitChars? units with
    | some chars => .text (String.ofList chars) rest
    | none => .unreadable rest

/-- The floating-point number of `digits * 10 ^ exponent`, unless it is out of range. -/
def floatOf? (negative : Bool) (digits : List Char) (exponent : Int) : Option Float :=
  let mantissa := digits.foldl (fun n c => n * 10 + (c.toNat - '0'.toNat)) 0
  let order : Int := (Nat.toDigits 10 mantissa).length + exponent
  let x :=
    if mantissa = 0 ∨ order < -400 then 0.0
    else if order > 400 then 1.0 / 0.0
    else Float.ofScientific mantissa (exponent < 0) exponent.natAbs
  if x.isFinite then some (if negative then -x else x) else none

/-- The number with the given parts. Without fraction and exponent it is an integer if it is in
    range. -/
def numberOf (negative : Bool) (whole fraction : List Char) (exponent : Option Int) : Node :=
  let asFloat : Node :=
    match floatOf? negative (whole ++ fraction) (exponent.getD 0 - fraction.length) with
    | some x => .float x
    | none => .unreadable
  if fraction.isEmpty && exponent.isNone then
    let n := whole.foldl (fun n c => n * 10 + (c.toNat - '0'.toNat)) 0
    if negative then
      if 0 < n ∧ n ≤ 9223372036854775808 then .int (-(n : Int)) else asFloat
    else if n < 18446744073709551616 then .int n else asFloat
  else asFloat

def spanDigits (cs : List Char) : List Char × List Char :=
  (cs.takeWhile Char.isDigit, cs.dropWhile Char.isDigit)

def readExponent? (cs : List Char) : Option (Int × List Char) :=
  let (negative, cs) := match cs with
    | '+' :: rest => (false, rest)
    | '-' :: rest => (true, rest)
    | rest => (false, rest)
  let (digits, rest) := spanDigits cs
  if digits.isEmpty then none
  else
    let n : Int := digits.foldl (fun n c => n * 10 + (c.toNat - '0'.toNat)) 0
    some (if negative then -n else n, rest)

def readNumber? (cs : List Char) : Option (Node × List Char) :=
  let (negative, cs) := match cs with
    | '-' :: rest => (true, rest)
    | rest => (false, rest)
  let (whole, rest) := spanDigits cs
  if whole.isEmpty || (whole.length > 1 && whole.head? == some '0') then none
  else
    let fractionPart : Option (List Char × List Char) := match rest with
      | '.' :: more =>
        let (fraction, rest) := spanDigits more
        if fraction.isEmpty then none else some (fraction, rest)
      | rest => some ([], rest)
    match fractionPart with
    | none => none
    | some (fraction, rest) =>
      let exponentPart : Option (Option Int × List Char) := match rest with
        | 'e' :: more => (readExponent? more).map fun (e, rest) => (some e, rest)
        | 'E' :: more => (readExponent? more).map fun (e, rest) => (some e, rest)
        | rest => some (none, rest)
      match exponentPart with
      | none => none
      | some (exponent, rest) => some (numberOf negative whole fraction exponent, rest)

/-- A document and what follows it; nothing follows a cut one. -/
abbrev ReadNode := Node × Option (List Char)

def readWord (word : String) (value : Node) (cs : List Char) : ReadNode :=
  match Text.dropStart? word.toList cs with
  | some rest => (value, some rest)
  | none => (.cut, none)

mutual

def readValue : Nat → List Char → ReadNode
  | 0, _ => (.cut, none)
  | fuel + 1, cs =>
    match skipBlanks cs with
    | '"' :: rest =>
      match readQuoted rest with
      | .text s rest => (.str s, some rest)
      | .unreadable rest => (.unreadable, some rest)
      | .cut => (.cut, none)
    | '[' :: rest =>
      match skipBlanks rest with
      | ']' :: rest => (.list true [] true, some rest)
      | rest => readItems fuel rest []
    | '\x7b' :: rest =>
      match skipBlanks rest with
      | '\x7d' :: rest => (.map [] true, some rest)
      | rest => readFields fuel rest []
    | 't' :: rest => readWord "true" (.bool true) ('t' :: rest)
    | 'f' :: rest => readWord "false" (.bool false) ('f' :: rest)
    | 'n' :: rest => readWord "null" .null ('n' :: rest)
    | other =>
      match readNumber? other with
      | some (n, rest) => (n, some rest)
      | none => (.cut, none)

def readItems : Nat → List Char → List Node → ReadNode
  | 0, _, soFar => (.list true soFar.reverse false, none)
  | fuel + 1, cs, soFar =>
    match readValue fuel cs with
    | (item, none) => (.list true (item :: soFar).reverse false, none)
    | (item, some rest) =>
      match skipBlanks rest with
      | ',' :: rest => readItems fuel rest (item :: soFar)
      | ']' :: rest => (.list true (item :: soFar).reverse true, some rest)
      | _ => (.list true (item :: soFar).reverse false, none)

def readFields : Nat → List Char → List (Node × Node) → ReadNode
  | 0, _, soFar => (.map soFar.reverse false, none)
  | fuel + 1, cs, soFar =>
    let cut : ReadNode := (.map soFar.reverse false, none)
    match skipBlanks cs with
    | '"' :: rest =>
      let key : Option (Node × List Char) := match readQuoted rest with
        | .text s rest => some (.str s, rest)
        | .unreadable rest => some (.unreadable, rest)
        | .cut => none
      match key with
      | none => cut
      | some (key, rest) =>
        match skipBlanks rest with
        | ':' :: rest =>
          match readValue fuel rest with
          | (value, none) => (.map ((key, value) :: soFar).reverse false, none)
          | (value, some rest) =>
            match skipBlanks rest with
            | ',' :: rest => readFields fuel rest ((key, value) :: soFar)
            | '\x7d' :: rest => (.map ((key, value) :: soFar).reverse true, some rest)
            | _ => (.map ((key, value) :: soFar).reverse false, none)
        | _ => (.map ((key, .cut) :: soFar).reverse false, none)
    | _ => cut

end

def readText (text : String) : DocumentText :=
  let cs := text.toList
  match readValue (2 * cs.length + 2) cs with
  | (root, some rest) => ⟨root,(skipBlanks rest).isEmpty⟩
  | (root, none) => ⟨root,false⟩

end Json
end TabCompletion
