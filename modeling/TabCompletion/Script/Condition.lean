import TabCompletion.Files
import TabCompletion.Script.Arithmetic

/-!
# Conditions

The conditions of `test`: of texts, numbers and files, joined by `!`, `-a` and `-o`.
-/
namespace TabCompletion.Script.Condition

structure Situation where
  files : Files
  directory : Location
  terminal : Bool

inductive Fault where
  | missingBracket
  | argumentExpected (operator : String)
  | unexpectedOperator (text : String)
  | closingExpected
  | illegalNumber (text : String)
  deriving DecidableEq, Repr, Inhabited

def Fault.message : Fault → String
  | missingBracket => "missing ]"
  | argumentExpected op => op ++ ": argument expected"
  | unexpectedOperator text => text ++ ": unexpected operator"
  | closingExpected => "closing paren expected"
  | illegalNumber text => "Illegal number: " ++ text

def unaryOperators : List String :=
  ["-b","-c","-d","-e","-f","-g","-h","-k","-L","-n","-O","-p","-r","-s","-S","-t",
    "-u","-w","-x","-z"]

def binaryOperators : List String :=
  ["=","!=","<",">","-eq","-ne","-lt","-le","-gt","-ge","-nt","-ot","-ef"]

def number (text : String) : Except Fault Int :=
  let cs := (text.toList.dropWhile Char.isWhitespace).reverse.dropWhile Char.isWhitespace
  let cs := cs.reverse
  let (sign, digits) := match cs with
    | '-' :: rest => ((-1 : Int), rest)
    | '+' :: rest => (1, rest)
    | rest => (1, rest)
  match Arithmetic.ofDigits? 10 digits with
  | some n => .ok (sign * n)
  | none => .error (.illegalNumber text)

def unary (s : Situation) (op operand : String) : Except Fault Bool :=
  let place := Location.ofPath s.directory operand
  let device := ["/dev/null","/dev/zero","/dev/tty"].contains operand
  match op with
  | "-n" => .ok (operand != "")
  | "-z" => .ok (operand == "")
  | "-d" => .ok (operand != "" && s.files.isDirectory place)
  | "-f" => .ok (s.files.find? place).isSome
  | "-s" =>
    .ok (s.files.isDirectory place || ((s.files.find? place).any fun b => !b.isEmpty))
  | "-c" => .ok device
  | "-t" => (number operand).map fun n => s.terminal && 0 ≤ n && n ≤ 2
  | "-x" => .ok (s.files.isDirectory place)
  | _ =>
    if ["-e","-r","-w","-O"].contains op then
      .ok (operand != "" && (s.files.has place || device))
    else .ok false

def binary (op a b : String) : Except Fault Bool := do
  match op with
  | "=" => return a == b
  | "!=" => return a != b
  | "<" => return a < b
  | ">" => return b < a
  | "-eq" => return (← number a) == (← number b)
  | "-ne" => return (← number a) != (← number b)
  | "-lt" => return (← number a) < (← number b)
  | "-le" => return (← number a) ≤ (← number b)
  | "-gt" => return (← number b) < (← number a)
  | "-ge" => return (← number b) ≤ (← number a)
  | _ => return false

variable (s : Situation)

mutual

/-- A condition without `-a` and `-o`, and the words after it. -/
def primary : Nat → List String → Except Fault (Bool × List String)
  | 0, words => .ok (false, words)
  | fuel + 1, words =>
    match words with
    | [] => .ok (false, [])
    | w :: rest =>
      let isBinary := (rest.head?).any binaryOperators.contains && rest.length ≥ 2
      if w = "(" ∧ !isBinary ∧ !rest.isEmpty then
        match disjunction fuel rest with
        | .ok (b, ")" :: rest) => .ok (b, rest)
        | .ok _ => .error .closingExpected
        | .error f => .error f
      else if unaryOperators.contains w ∧ !isBinary ∧ !rest.isEmpty then
        (unary s w (rest.headD "")).map (·, rest.drop 1)
      else
        match rest with
        | op :: operands =>
          if binaryOperators.contains op then
            match operands with
            | b :: after => (binary op w b).map (·, after)
            | [] => .error (.argumentExpected op)
          else .ok (w != "", rest)
        | [] => .ok (w != "", [])

def negation : Nat → List String → Except Fault (Bool × List String)
  | 0, words => .ok (false, words)
  | fuel + 1, words =>
    match words with
    | "!" :: (w :: rest) => (negation fuel (w :: rest)).map fun (b, rest) => (!b, rest)
    | _ => primary fuel words

def conjunction : Nat → List String → Except Fault (Bool × List String)
  | 0, words => .ok (false, words)
  | fuel + 1, words =>
    match negation fuel words with
    | .ok (b, "-a" :: rest) => (conjunction fuel rest).map fun (c, rest) => (b && c, rest)
    | r => r

def disjunction : Nat → List String → Except Fault (Bool × List String)
  | 0, words => .ok (false, words)
  | fuel + 1, words =>
    match conjunction fuel words with
    | .ok (b, "-o" :: rest) => (disjunction fuel rest).map fun (c, rest) => (b || c, rest)
    | r => r

end

def evaluate (words : List String) : Except Fault Bool :=
  match words with
  | [] => .ok false
  | ["!",w] => .ok (w == "")
  | _ =>
    match disjunction s (6 * words.length + 6) words with
    | .error f => .error f
    | .ok (b, []) => .ok b
    | .ok (_, rest) => .error (.unexpectedOperator ((words[words.length - rest.length - 1]?).getD ""))

/-- The value of a condition that is called by a name; with the name `[` it ends with a bracket. -/
def evaluateCall (name : String) (words : List String) : Except Fault Bool :=
  if name = "[" then
    if words.getLast? = some "]" then evaluate s words.dropLast else .error .missingBracket
  else evaluate s words

end TabCompletion.Script.Condition
