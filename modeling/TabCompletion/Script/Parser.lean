import TabCompletion.Script.Token

/-!
# Parsing shell commands

Commands from tokens, one line of commands at a time (`nextLine`), because a shell runs a line before
it looks at the next one. The first token that does not fit is the fault.
-/
namespace TabCompletion.Script

structure PlacedFault where
  fault : SyntaxFault
  line : Nat
  deriving DecidableEq, Repr, Inhabited

abbrev Parse := StateT (List PlacedToken) (Except PlacedFault)

namespace Parse

def reservedWords : List String :=
  ["!","\x7b","\x7d","case","do","done","elif","else","esac","fi","for","if","then","until",
    "while"]

def reserved? : Token → Option String
  | .word w => (plainText? w).filter reservedWords.contains
  | _ => none

def redirectionOperators : List String := ["<",">",">>",">&","<&",">|","<<"]

def describe (t : Token) : String :=
  match t with
  | .word _ =>
    match reserved? t with
    | some word => "\"" ++ word ++ "\""
    | none => "word"
  | .descriptor _ => "redirection"
  | .operator op =>
    if redirectionOperators.contains op then "redirection" else "\"" ++ op ++ "\""
  | .newline => "newline"
  | .fault _ => "end of file"
  | .finish => "end of file"

def peek : Parse PlacedToken := fun tokens =>
  match tokens with
  | [] => .ok (⟨.finish,1⟩, [])
  | t :: _ =>
    match t.token with
    | .fault f => .error ⟨f,t.line⟩
    | _ => .ok (t, tokens)

def skip : Parse Unit := fun tokens => .ok ((), tokens.drop 1)

def refuse {α : Type} (expected : Option String) : Parse α := do
  let t ← peek
  throw ⟨.unexpected (describe t.token) expected,t.line⟩

def atOperator (op : String) : Parse Bool := return (← peek).token == .operator op

def atReserved (word : String) : Parse Bool := return reserved? (← peek).token == some word

def takeOperator (op : String) : Parse Unit := do
  if ← atOperator op then skip else refuse (some ("\"" ++ op ++ "\""))

def takeReserved (word : String) : Parse Unit := do
  if ← atReserved word then skip else refuse (some ("\"" ++ word ++ "\""))

def skipNewlines : Parse Unit := fun tokens =>
  .ok ((), tokens.dropWhile fun t => t.token == .newline)

/-- Repeats a step as long as it gives something, at most as often as there are tokens. -/
def manyUpTo {α : Type} (step : Parse (Option α)) : Nat → Parse (List α)
  | 0 => return []
  | n + 1 => do
    match ← step with
    | none => return []
    | some a => return a :: (← manyUpTo step n)

def many {α : Type} (step : Parse (Option α)) : Parse (List α) := do
  manyUpTo step ((← get).length + 1)

def takeWord : Parse Word := do
  match (← peek).token with
  | .word w => skip; return w
  | _ => refuse none

/-- What the operator of a redirection does, and the descriptor it is for. -/
def redirectionOf : String → RedirectionKind × Nat
  | "<" => (.read, 0)
  | ">>" => (.append, 1)
  | ">&" => (.duplicate, 1)
  | "<&" => (.duplicate, 0)
  | "<<" => (.document, 0)
  | _ => (.write, 1)

def redirection? : Parse (Option Redirection) := do
  let number ← match (← peek).token with
    | .descriptor n => skip; pure (some n)
    | _ => pure none
  match (← peek).token with
  | .operator op =>
    if redirectionOperators.contains op then
      skip
      let (kind, usual) := redirectionOf op
      return some ⟨number.getD usual,kind,← takeWord⟩
    else return none
  | _ => return none

def setting? : Word → Option (String × Word)
  | .text s false :: rest =>
    let name := s.toList.takeWhile Token.isNameChar
    match name, s.toList.drop name.length with
    | c :: _, '=' :: value =>
      if Token.isNameStart c then
        some (String.ofList name,
          if value.isEmpty then rest else .text (String.ofList value) false :: rest)
      else none
    | _, _ => none
  | _ => none

inductive Piece where
  | setting (name : String) (value : Word)
  | word (w : Word)
  | redirection (r : Redirection)

def wordsOf (pieces : List Piece) : List Word :=
  pieces.filterMap fun
    | .word w => some w
    | _ => none

/-- The next piece of a simple command, where `started` says whether a word has come. -/
def piece? (started : Bool) : Parse (Option Piece) := do
  match ← redirection? with
  | some r => return some (.redirection r)
  | none =>
    match (← peek).token with
    | .word w =>
      skip
      match setting? w with
      | some (name, value) => return some (if started then .word w else .setting name value)
      | none => return some (.word w)
    | _ => return none

def pieces : Nat → Bool → Parse (List Piece)
  | 0, _ => return []
  | n + 1, started => do
    match ← piece? started with
    | none => return []
    | some (.word w) => return .word w :: (← pieces n true)
    | some p => return p :: (← pieces n started)

def withRedirections (c : Command) (line : Nat) (rs : List Redirection) : Command :=
  if rs.isEmpty then c else .redirected c line rs

/-- A simple command or, where a name and empty parentheses come, the definition of a function whose
    body `command` reads. -/
def simple (command : Parse Command) : Parse Command := do
  let line := (← peek).line
  let parts ← pieces ((← get).length + 1) false
  if parts.isEmpty then refuse none
  else if ← atOperator "(" then
    match parts with
    | [.word w] =>
      skip
      takeOperator ")"
      match plainText? w with
      | some name =>
        if (Token.nameOf false name.toList).2.isEmpty && !(name.toList.head?.any Char.isDigit) then
          skipNewlines
          return .define name (← command)
        else throw ⟨.badFunctionName,line⟩
      | none => throw ⟨.badFunctionName,line⟩
    | _ => refuse none
  else
    let settings := parts.filterMap fun
      | .setting n v => some (n, v)
      | _ => none
    let redirections := parts.filterMap fun
      | .redirection r => some r
      | _ => none
    return withRedirections (.simple ⟨line,settings,wordsOf parts⟩) line redirections

/-! ## Compound commands -/

/-- What comes after the test and the body of an `if`. -/
def otherwise (list : Parse Command) : Nat → Parse Command
  | 0 => refuse none
  | n + 1 => do
    if ← atReserved "elif" then
      skip
      let test ← list
      takeReserved "then"
      let yes ← list
      return .branch test yes (← otherwise list n)
    else if ← atReserved "else" then
      skip
      let no ← list
      takeReserved "fi"
      return no
    else
      takeReserved "fi"
      return .sequence []

def loopWords : Parse (List Word) :=
  many do
    match (← peek).token with
    | .word w => skip; return some w
    | _ => return none

def forLoop (list : Parse Command) : Parse Command := do
  let line := (← peek).line
  let name ← match (← peek).token with
    | .word w =>
      match plainText? w with
      | some name =>
        if (Token.nameOf false name.toList).2.isEmpty && name.toList.head?.any Token.isNameStart then
          skip; pure name
        else throw ⟨.badLoopVariable,line⟩
      | none => throw ⟨.badLoopVariable,line⟩
    | _ => throw ⟨.badLoopVariable,line⟩
  skipNewlines
  let words ← match (← peek).token with
    | .word w =>
      if plainText? w == some "in" then
        skip
        let words ← loopWords
        match (← peek).token with
        | .newline => skip
        | .operator ";" => skip
        | _ => refuse none
        pure (some words)
      else pure none
    | .operator ";" => skip; pure none
    | _ => pure none
  skipNewlines
  takeReserved "do"
  let body ← list
  takeReserved "done"
  return .each name words body

def takePattern : Parse Word := do
  match (← peek).token with
  | .word w => skip; return w
  | .finish => refuse (some "\")\"")
  | _ => skip; return []

def branch? (list : Parse Command) : Parse (Option (List Word × Command)) := do
  skipNewlines
  if ← atReserved "esac" then return none
  if ← atOperator "(" then skip
  let first ← takePattern
  let more ← many do
    if ← atOperator "|" then
      skip
      return some (← takePattern)
    else return none
  takeOperator ")"
  skipNewlines
  let empty := (← atOperator ";;") || (← atReserved "esac")
  let body ← if empty then pure (.sequence []) else list
  if ← atOperator ";;" then skip
  else if !(← atReserved "esac") then refuse (some "\";;\"")
  return some (first :: more, body)

def choice (list : Parse Command) : Parse Command := do
  let subject ← takeWord
  skipNewlines
  match (← peek).token with
  | .word w => if plainText? w == some "in" then skip else refuse (some "\"in\"")
  | _ => refuse (some "\"in\"")
  let branches ← many (branch? list)
  takeReserved "esac"
  return .choose subject branches

def compound? (list : Parse Command) : Parse (Option Command) := do
  if ← atOperator "(" then
    skip
    let body ← list
    takeOperator ")"
    return some (.subshell body)
  match reserved? (← peek).token with
  | some "\x7b" =>
    skip
    let body ← list
    takeReserved "\x7d"
    return some body
  | some "if" =>
    skip
    let test ← list
    takeReserved "then"
    let yes ← list
    return some (.branch test yes (← otherwise list ((← get).length + 1)))
  | some "while" =>
    skip
    let test ← list
    takeReserved "do"
    let body ← list
    takeReserved "done"
    return some (.loop false test body)
  | some "until" =>
    skip
    let test ← list
    takeReserved "do"
    let body ← list
    takeReserved "done"
    return some (.loop true test body)
  | some "for" => skip; return some (← forLoop list)
  | some "case" => skip; return some (← choice list)
  | some _ => refuse none
  | none => return none

def command (list : Parse Command) : Nat → Parse Command
  | 0 => refuse none
  | n + 1 => do
    let line := (← peek).line
    match ← compound? list with
    | some c => return withRedirections c line (← many redirection?)
    | none => simple (command list n)

def pipeline (list : Parse Command) : Parse Command := do
  let negated ← atReserved "!"
  if negated then skip
  let size := (← get).length + 1
  let first ← command list size
  let rest ← many do
    if ← atOperator "|" then
      skip
      skipNewlines
      return some (← command list size)
    else return none
  let whole := if rest.isEmpty then first else .pipeline first rest
  return if negated then .negated whole else whole

def chain (list : Parse Command) : Parse Command := do
  let first ← pipeline list
  let more ← many do
    let both ← atOperator "&&"
    let either ← atOperator "||"
    if both || either then
      skip
      skipNewlines
      return some (both, ← pipeline list)
    else return none
  return more.foldl (fun c (both, next) => if both then .both c next else .either c next) first

def closers : List String := ["\x7d","do","done","elif","else","esac","fi","then"]

def atListEnd : Parse Bool := do
  let t := (← peek).token
  return t == .finish || t == .operator ")" || t == .operator ";;" ||
    (reserved? t).any closers.contains

/-- The commands of a list, separated by `;`, `&` and, unless it is one line, line ends. -/
def commands (oneLine : Bool) (list : Parse Command) : Nat → Parse (List Command)
  | 0 => refuse none
  | n + 1 => do
    let c ← chain list
    let t := (← peek).token
    let c := if t == .operator "&" then .background c else c
    if t == .operator ";" || t == .operator "&" || (t == .newline && !oneLine) then
      skip
      if !oneLine then skipNewlines
      let ended ← if oneLine then pure ((← peek).token == .newline || (← peek).token == .finish)
        else atListEnd
      if ended then return [c] else return c :: (← commands oneLine list n)
    else return [c]

def ofCommands : List Command → Command
  | [c] => c
  | cs => .sequence cs

def list : Nat → Parse Command
  | 0 => refuse none
  | n + 1 => do
    skipNewlines
    if (← peek).token == .finish then return .sequence []
    return ofCommands (← commands false (list n) ((← get).length + 1))

def line? : Parse (Option Command) := do
  skipNewlines
  if (← peek).token == .finish then return none
  let size := (← get).length + 1
  let cs ← commands true (list size) size
  match (← peek).token with
  | .newline => skip
  | .finish => pure ()
  | _ => refuse none
  return some (ofCommands cs)

end Parse

/-- The commands of the next line, and the tokens after it; nothing at the end. -/
def nextLine (tokens : List PlacedToken) :
    Except PlacedFault (Option (Command × List PlacedToken)) :=
  match Parse.line?.run tokens with
  | .error f => .error f
  | .ok (none, _) => .ok none
  | .ok (some c, rest) => .ok (some (c, rest))

end TabCompletion.Script
