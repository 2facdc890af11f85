/-!
# Arithmetic of the shell

Expressions with whole numbers of 64 bits and variables, whose operators bind as in C. A text becomes
a `Term`, whose value may depend on variables and may assign them. The value of a comparison that is
true is one.
-/
namespace TabCompletion.Script.Arithmetic

inductive Symbol where
  | number (n : Int)
  | name (s : String)
  | operator (s : String)
  deriving DecidableEq, Repr, Inhabited

inductive Fault where
  | expecting (what : String)
  | divisionByZero
  | notNumber (value : String)
  deriving DecidableEq, Repr, Inhabited

/-- The operators, longer ones before those they begin with. -/
def operators : List String :=
  ["<<=",">>=","<<",">>","<=",">=","==","!=","&&","||","+=","-=","*=","/=","%=","&=",
    "|=","^="]

def digit? (c : Char) : Option Nat :=
  if c.isDigit then some (c.toNat - '0'.toNat)
  else if 'a' ≤ c ∧ c ≤ 'f' then some (c.toNat - 'a'.toNat + 10)
  else if 'A' ≤ c ∧ c ≤ 'F' then some (c.toNat - 'A'.toNat + 10)
  else none

def ofDigits? (base : Nat) (cs : List Char) : Option Nat :=
  if cs.isEmpty then none
  else cs.foldlM (fun n c => (digit? c).bind fun d => if d < base then some (n * base + d) else none) 0

/-- A number in base ten or, with `0x` or `0` in front, in base sixteen or eight. -/
def natural? : List Char → Option Nat
  | '0' :: 'x' :: digits => ofDigits? 16 digits
  | '0' :: 'X' :: digits => ofDigits? 16 digits
  | ['0'] => some 0
  | '0' :: digits => ofDigits? 8 digits
  | digits => ofDigits? 10 digits

def integer? (text : String) : Option Int :=
  match text.toList with
  | '-' :: digits => (natural? digits).map fun n => -(n : Int)
  | '+' :: digits => (natural? digits).map Int.ofNat
  | digits => (natural? digits).map Int.ofNat

def greatest : Nat := 9223372036854775807

/-- A number in the range of 64 bits, to which every result is brought. -/
def wrap (n : Int) : Int := (BitVec.ofInt 64 n).toInt

/-- The number at the front of a text that begins with a digit, and its length. It is the longest
    front that is a number. -/
def leadingNumber (cs : List Char) : Nat × Nat :=
  let digits (base : Nat) (cs : List Char) : List Char :=
    cs.takeWhile fun c => (digit? c).any (· < base)
  let found (base skipped : Nat) : Nat × Nat :=
    let ds := digits base (cs.drop skipped)
    (min greatest ((ofDigits? base ds).getD 0), skipped + ds.length)
  match cs with
  | '0' :: x :: d :: _ =>
    if (x = 'x' ∨ x = 'X') ∧ (digit? d).isSome then found 16 2 else found 8 0
  | '0' :: _ => found 8 0
  | _ => found 10 0

/-- The symbols of an expression. A character that means nothing is an operator that no place
    allows. -/
def symbols : Nat → List Char → List Symbol
  | _, [] => []
  | 0, _ => []
  | fuel + 1, c :: rest =>
    if c.isWhitespace then symbols fuel rest
    else if c.isDigit then
      let (n, length) := leadingNumber (c :: rest)
      .number n :: symbols fuel ((c :: rest).drop length)
    else if c.isAlpha ∨ c = '_' then
      let name := (c :: rest).takeWhile fun c => c.isAlphanum || c = '_'
      .name (String.ofList name) :: symbols fuel ((c :: rest).drop name.length)
    else
      let op := (operators.find? fun op => op.toList.isPrefixOf (c :: rest)).getD (String.singleton c)
      .operator op :: symbols fuel ((c :: rest).drop op.length)

def strength? : String → Option Nat
  | "||" => some 1
  | "&&" => some 2
  | "|" => some 3
  | "^" => some 4
  | "&" => some 5
  | "==" => some 6
  | "!=" => some 6
  | "<" => some 7
  | ">" => some 7
  | "<=" => some 7
  | ">=" => some 7
  | "<<" => some 8
  | ">>" => some 8
  | "+" => some 9
  | "-" => some 9
  | "*" => some 10
  | "/" => some 10
  | "%" => some 10
  | _ => none

def truth (b : Bool) : Int := if b then 1 else 0

/-- The value of a binary operator on two values. Division goes toward zero, and a shift is by less
    than 64 bits. -/
def apply (op : String) (a b : Int) : Except Fault Int :=
  let bits (f : Nat → Nat → Nat) : Int :=
    (BitVec.ofNat 64 (f (BitVec.ofInt 64 a).toNat (BitVec.ofInt 64 b).toNat)).toInt
  let places : Nat := (BitVec.ofInt 64 b).toNat % 64
  match op with
  | "|" => .ok (bits (· ||| ·))
  | "^" => .ok (bits (· ^^^ ·))
  | "&" => .ok (bits (· &&& ·))
  | "==" => .ok (truth (a == b))
  | "!=" => .ok (truth (a != b))
  | "<" => .ok (truth (a < b))
  | ">" => .ok (truth (b < a))
  | "<=" => .ok (truth (a ≤ b))
  | ">=" => .ok (truth (b ≤ a))
  | "<<" => .ok (wrap (a * Nat.pow 2 places))
  | ">>" => .ok (a / Nat.pow 2 places)
  | "+" => .ok (wrap (a + b))
  | "-" => .ok (wrap (a - b))
  | "*" => .ok (wrap (a * b))
  | "/" => if b = 0 then .error .divisionByZero else .ok (wrap (a.tdiv b))
  | _ => if b = 0 then .error .divisionByZero else .ok (a.tmod b)

def applyFront (op : String) (a : Int) : Int :=
  match op with
  | "-" => wrap (-a)
  | "!" => truth (a == 0)
  | "~" => -a - 1
  | _ => a

/-- The operator with which an assignment joins the old value and the new one, if it joins them. -/
def assignment? : String → Option (Option String)
  | "=" => some none
  | "<<=" => some (some "<<")
  | ">>=" => some (some ">>")
  | "+=" => some (some "+")
  | "-=" => some (some "-")
  | "*=" => some (some "*")
  | "/=" => some (some "/")
  | "%=" => some (some "%")
  | "&=" => some (some "&")
  | "|=" => some (some "|")
  | "^=" => some (some "^")
  | _ => none

/-! ## Terms -/

inductive Term where
  | number (n : Int)
  | named (name : String)
  | front (op : String) (t : Term)
  | binary (op : String) (left right : Term)
  /-- The second one counts only if the first is true. -/
  | both (left right : Term)
  /-- The second one counts only if the first is false. -/
  | either (left right : Term)
  | choose (test yes no : Term)
  /-- Gives a variable a value or, with an operator, its old value joined with that. -/
  | assign (name : String) (op : Option String) (t : Term)
  deriving DecidableEq, Repr, Inhabited

def Term.join (op : String) (left right : Term) : Term :=
  match op with
  | "||" => either left right
  | "&&" => both left right
  | _ => binary op left right

abbrev Reading := Except Fault (Term × List Symbol)

mutual

def readOperand : Nat → List Symbol → Reading
  | 0, _ => .error (.expecting "primary")
  | fuel + 1, s =>
    match s with
    | .number n :: rest => .ok (.number n, rest)
    | .name v :: rest => .ok (.named v, rest)
    | .operator "(" :: rest =>
      match readTerm fuel rest with
      | .ok (t, .operator ")" :: rest) => .ok (t, rest)
      | .ok _ => .error (.expecting "')'")
      | .error f => .error f
    | .operator op :: rest =>
      if ["-","+","!","~"].contains op then
        (readOperand fuel rest).map fun (t, rest) => (.front op t, rest)
      else .error (.expecting "primary")
    | [] => .error (.expecting "primary")

/-- Reads operands joined by operators of at least a strength. -/
def readJoined : Nat → Nat → List Symbol → Reading
  | 0, _, _ => .error (.expecting "primary")
  | fuel + 1, least, s =>
    match readOperand fuel s with
    | .error f => .error f
    | .ok (t, rest) => readMore fuel least t rest

/-- Reads on after a term that stands in front of an operator, if there is one. -/
def readMore : Nat → Nat → Term → List Symbol → Reading
  | 0, _, _, _ => .error (.expecting "primary")
  | fuel + 1, least, left, s =>
    match s with
    | .operator op :: rest =>
      match strength? op with
      | none => .ok (left, s)
      | some strength =>
        if strength < least then .ok (left, s)
        else
          match readJoined fuel (strength + 1) rest with
          | .error f => .error f
          | .ok (right, rest) => readMore fuel least (.join op left right) rest
    | _ => .ok (left, s)

/-- Reads a term that is not an assignment: one of two terms by a test, or no choice at all. -/
def readChoice : Nat → List Symbol → Reading
  | 0, _ => .error (.expecting "primary")
  | fuel + 1, s =>
    match readJoined fuel 1 s with
    | .error f => .error f
    | .ok (test, .operator "?" :: rest) =>
      match readTerm fuel rest with
      | .error f => .error f
      | .ok (yes, .operator ":" :: rest) =>
        (readChoice fuel rest).map fun (no, rest) => (.choose test yes no, rest)
      | .ok _ => .error (.expecting "':'")
    | .ok (t, rest) => .ok (t, rest)

def readTerm : Nat → List Symbol → Reading
  | 0, _ => .error (.expecting "primary")
  | fuel + 1, s =>
    match s with
    | .name v :: .operator op :: rest =>
      match assignment? op with
      | some op => (readTerm fuel rest).map fun (t, rest) => (.assign v op t, rest)
      | none => readChoice fuel s
    | _ => readChoice fuel s

end

def Term.ofText (text : String) : Except Fault Term :=
  let all := symbols (text.length + 1) text.toList
  match readTerm (6 * all.length + 6) all with
  | .ok (t, []) => .ok t
  | .ok _ => .error (.expecting "EOF")
  | .error f => .error f

/-- An evaluation knows what was assigned before, the last one first. -/
abbrev Evaluation := StateT (List (String × Int)) (Except Fault)

variable (valueOf : String → Except Fault Int)

/-- The value of a variable: what it was assigned last, or what it had before. -/
def currentValue (name : String) : Evaluation Int := do
  match (← get).lookup name with
  | some n => return n
  | none => valueOf name

/-- The value of a term. What does not count is not evaluated. -/
def Term.value : Term → Evaluation Int
  | number n => pure n
  | named name => currentValue valueOf name
  | front op t => do return applyFront op (← t.value)
  | binary op left right => do
    let a ← left.value
    let b ← right.value
    apply op a b
  | both left right => do
    if (← left.value) = 0 then return 0 else return truth ((← right.value) != 0)
  | either left right => do
    if (← left.value) = 0 then return truth ((← right.value) != 0) else return 1
  | choose test yes no => do
    if (← test.value) = 0 then no.value else yes.value
  | assign name op t => do
    let n ← t.value
    let n ← match op with
      | none => pure n
      | some op => apply op (← currentValue valueOf name) n
    modify ((name, n) :: ·)
    return n

/-- The value of an expression, and what is assigned to variables on the way, in order. -/
def evaluate (text : String) : Except Fault (Int × List (String × Int)) := do
  let (n, assigned) ← (← Term.ofText text).value valueOf []
  return (n, assigned.reverse)

end TabCompletion.Script.Arithmetic
