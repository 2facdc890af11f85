import TabCompletion.Text.Utf8

/-!
# Formatted output of the shell

Backslash escapes (`escaped`) and the formats of `printf` (`printf`). An octal escape is a byte, and
everything else is UTF-8.
-/
namespace TabCompletion.Script.Format

def letterEscape? : Char → Option UInt8
  | 'a' => some 7
  | 'b' => some 8
  | 'e' => some 27
  | 'f' => some 12
  | 'n' => some 10
  | 'r' => some 13
  | 't' => some 9
  | 'v' => some 11
  | '\\' => some 92
  | _ => none

def isOctal (c : Char) : Bool := '0' ≤ c && c ≤ '7'

def octalByte (digits : List Char) : UInt8 :=
  UInt8.ofNat (digits.foldl (fun n c => n * 8 + (c.toNat - '0'.toNat)) 0)

def octalDigits (limit : Nat) (cs : List Char) : List Char := (cs.take limit).takeWhile isOctal

/-- The bytes of an escape, the text after it, and whether the output stops, for a text after a
    backslash. Where `stops` is set, `\c` stops the output and a leading zero is no digit. -/
def escape (stops : Bool) : List Char → Bytes × List Char × Bool
  | [] => ([92], [], false)
  | c :: rest =>
    if stops && c == 'c' then ([], [], true)
    else
      let leading := stops && c == '0'
      let digits := if leading then octalDigits 3 rest else octalDigits 3 (c :: rest)
      if leading then ([octalByte digits], rest.drop digits.length, false)
      else if !digits.isEmpty then
        ([octalByte digits], (c :: rest).drop digits.length, false)
      else
        match letterEscape? c with
        | some b => ([b], rest, false)
        | none => (92 :: Utf8.encodeChar c, rest, false)

def escapedWithin : Nat → List Char → Bytes × Bool
  | 0, _ => ([], false)
  | _, [] => ([], false)
  | fuel + 1, c :: rest =>
    let (here, rest, stopped) :=
      if c = '\\' then escape true rest else (Utf8.encodeChar c, rest, false)
    if stopped then (here, true)
    else
      let (more, stopped) := escapedWithin fuel rest
      (here ++ more, stopped)

def escaped (text : String) : Bytes × Bool := escapedWithin (text.length + 1) text.toList

structure Directive where
  left : Bool := false
  plus : Bool := false
  space : Bool := false
  zero : Bool := false
  alternate : Bool := false
  width : Nat := 0
  precision : Option Nat := none
  deriving DecidableEq, Repr, Inhabited

/-- Output that was made, the arguments that are left, and what was wrong with arguments. -/
structure Progress where
  bytes : Bytes := []
  arguments : List String
  faults : List String := []
  consumed : Bool := false
  stopped : Bool := false

inductive Fault where
  | invalid (directive : String)
  | incomplete
  deriving DecidableEq, Repr, Inhabited

def Progress.next (p : Progress) : Option String × Progress :=
  match p.arguments with
  | a :: rest => (some a, { p with arguments := rest, consumed := true })
  | [] => (none, { p with consumed := true })

def pad (d : Directive) (bytes : Bytes) : Bytes :=
  let fill := List.replicate (d.width - bytes.length) (32 : UInt8)
  if d.left then bytes ++ fill else fill ++ bytes

/-- The number that an argument begins with, with what is wrong with the argument. -/
def numberOf (text : String) : Int × List String :=
  match text.toList with
  | [] => (0, [])
  | '"' :: c :: _ => (c.toNat, [])
  | '\'' :: c :: _ => (c.toNat, [])
  | cs =>
    let (sign, digits) := match cs with
      | '-' :: rest => ((-1 : Int), rest)
      | '+' :: rest => (1, rest)
      | rest => (1, rest)
    let (base, digits) := match digits with
      | '0' :: 'x' :: rest => (16, rest)
      | '0' :: 'X' :: rest => (16, rest)
      | '0' :: rest => (8, '0' :: rest)
      | rest => (10, rest)
    let value (c : Char) : Nat :=
      if c.isDigit then c.toNat - '0'.toNat
      else if c.isLower then c.toNat - 'a'.toNat + 10
      else c.toNat - 'A'.toNat + 10
    let used := digits.takeWhile fun c => c.isAlphanum && value c < base
    let n := used.foldl (fun n c => n * base + value c) 0
    (sign * n,
      if used.isEmpty then [text ++ ": expected numeric value"]
      else if used.length < digits.length then [text ++ ": not completely converted"]
      else [])

def atLeast (d : Directive) (digits : List Char) : List Char :=
  List.replicate (d.precision.getD 1 - digits.length) '0' ++ digits

def withFront (d : Directive) (front digits : List Char) : Bytes :=
  let digits := atLeast d digits
  let zeros :=
    if d.zero && !d.left && d.precision.isNone then d.width - front.length - digits.length else 0
  pad d (Utf8.encodeChars (front ++ List.replicate zeros '0' ++ digits))

def unsigned (base : Nat) (n : Int) : List Char := Nat.toDigits base (n % 18446744073709551616).toNat

def directive (d : Directive) (kind : Char) (p : Progress) : Option Progress :=
  let (argument, q) := p.next
  let text := argument.getD ""
  let (n, faults) := numberOf text
  let number (front digits : List Char) : Option Progress :=
    some { q with bytes := p.bytes ++ withFront d front digits, faults := p.faults ++ faults }
  match kind with
  | '%' => some { p with bytes := p.bytes ++ [37] }
  | 's' =>
    let cut := match d.precision with
      | some k => (Utf8.encode text).take k
      | none => Utf8.encode text
    some { q with bytes := p.bytes ++ pad d cut }
  | 'c' =>
    let first := if text.isEmpty then [0] else (Utf8.encode text).take 1
    some { q with bytes := p.bytes ++ pad d first }
  | 'b' =>
    let (bytes, stopped) := escaped text
    some { q with bytes := p.bytes ++ pad d bytes, stopped }
  | 'd' =>
    number (if n < 0 then ['-'] else if d.plus then ['+'] else if d.space then [' '] else [])
      (Nat.toDigits 10 n.natAbs)
  | 'i' =>
    number (if n < 0 then ['-'] else if d.plus then ['+'] else if d.space then [' '] else [])
      (Nat.toDigits 10 n.natAbs)
  | 'u' => number [] (unsigned 10 n)
  | 'o' => number (if d.alternate then ['0'] else []) (unsigned 8 n)
  | 'x' => number (if d.alternate && n != 0 then ['0','x'] else []) (unsigned 16 n)
  | 'X' =>
    number (if d.alternate && n != 0 then ['0','X'] else []) ((unsigned 16 n).map Char.toUpper)
  | _ => none

def flags (d : Directive) : List Char → Directive × List Char
  | '-' :: rest => flags { d with left := true } rest
  | '+' :: rest => flags { d with plus := true } rest
  | ' ' :: rest => flags { d with space := true } rest
  | '0' :: rest => flags { d with zero := true } rest
  | '#' :: rest => flags { d with alternate := true } rest
  | rest => (d, rest)

/-- A number in a directive: digits, or a star for the next argument. -/
def count (p : Progress) : List Char → Nat × Progress × List Char
  | '*' :: rest =>
    let (argument, q) := p.next
    (((numberOf (argument.getD "")).1).toNat, q, rest)
  | cs =>
    let digits := cs.takeWhile Char.isDigit
    ((String.ofList digits).toNat?.getD 0, p, cs.drop digits.length)

def once : Nat → List Char → Progress → Except Fault Progress
  | 0, _, p => .ok p
  | _, [], p => .ok p
  | fuel + 1, c :: rest, p =>
    if p.stopped then .ok p
    else if c = '\\' then
      match rest with
      | '"' :: after => once fuel after { p with bytes := p.bytes ++ [34] }
      | _ =>
        let (bytes, after, _) := escape false rest
        once fuel after { p with bytes := p.bytes ++ bytes }
    else if c = '%' then
      let (d, after) := flags {} rest
      let (width, p, after) := count p after
      let (precision, p, after) := match after with
        | '.' :: more =>
          let (n, p, after) := count p more
          (some n, p, after)
        | _ => (none, p, after)
      match after with
      | [] => .error .incomplete
      | kind :: more =>
        let shown := rest.take (rest.length - more.length)
        if kind = '%' ∧ shown ≠ ['%'] then .error (.invalid (String.ofList ('%' :: shown)))
        else
          match directive { d with width, precision } kind p with
          | some p => once fuel more p
          | none => .error (.invalid (String.ofList ('%' :: shown)))
    else once fuel rest { p with bytes := p.bytes ++ Utf8.encodeChar c }

/-- The output of a format, run through again as long as arguments are left. -/
def repeated (format : List Char) : Nat → Progress → Except Fault Progress
  | 0, p => .ok p
  | rounds + 1, p =>
    match once (format.length + 1) format { p with consumed := false } with
    | .error f => .error f
    | .ok p =>
      if p.stopped || p.arguments.isEmpty || !p.consumed then .ok p else repeated format rounds p

def printf (format : String) (arguments : List String) : Except Fault (Bytes × List String) :=
  (repeated format.toList (arguments.length + 1) { arguments }).map fun p => (p.bytes, p.faults)

end TabCompletion.Script.Format
