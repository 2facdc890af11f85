import TabCompletion.Script.Condition
import TabCompletion.Script.Expansion
import TabCompletion.Script.Format

/-!
# Commands of the shell itself

What a shell does without a program: it sets variables, traps and options, changes the directory,
reads lines, sends signals, prints and tests. A faulty use of a special command ends the shell.
-/
namespace TabCompletion.Script

abbrev Builtin := Evaluator → List String → ShellM Nat

namespace Builtin
open ShellM Expansion

def complainAs (name message : String) : ShellM Unit := complain (name ++ ": " ++ message)

def numberLimit : Nat := 2147483647

def numberOf (name text : String) : ShellM Nat :=
  match (Arithmetic.ofDigits? 10 (text.toList.dropWhile Char.isWhitespace)).filter
      (decide <| · ≤ numberLimit) with
  | some n => return n
  | none => fail (name ++ ": Illegal number: " ++ text)

def singleQuoted (text : String) : String :=
  "'" ++ "'\"'\"'".intercalate ((text.toList.splitOn '\'').map String.ofList) ++ "'"

def exit : Builtin
  | _, [] => do throw (.exit (← get).status)
  | _, arg :: _ => do throw (.exit ((← numberOf "exit" arg) % 256))

def leave : Builtin
  | _, [] => do throw (.leaveFunction (← get).status)
  | _, arg :: _ => do throw (.leaveFunction ((← numberOf "return" arg) % 256))

/-- `break` and `continue`: leave loops, if the command is in any. -/
def leaveLoops (name : String) (goOn : Bool) : Builtin := fun _ args => do
  let count ← match args with
    | [] => pure 1
    | arg :: _ => numberOf name arg
  let loops := (← get).loops
  setStatus 0
  if loops = 0 then return 0 else throw (.leaveLoops (max 1 (min count loops)) goOn)

def eval : Builtin := fun ev args => do
  setStatus 0
  runText ev false (" ".intercalate args)
  return (← get).status

def source : Builtin
  | _, [] => return 0
  | ev, path :: _ => do
    let s ← get
    match (← lift Process.files).read (Location.ofPath s.directory path) with
    | .error _ => fail (".: cannot open " ++ path ++ ": No such file")
    | .ok bytes =>
      setStatus 0
      runText ev false (Utf8.decodeLossy bytes)
      return (← get).status

/-! ## Variables -/

def splitSetting (text : String) : String × Option String :=
  let name := text.toList.takeWhile (· != '=')
  match text.toList.drop name.length with
  | _ :: value => (String.ofList name, some (String.ofList value))
  | [] => (text, none)

/-- The variables that are marked, as commands that would mark them. -/
def listing (word : String) (marked : Variable → Bool) : ShellM Unit := do
  let vs := ((← get).bindings.filter marked).mergeSort fun a b => a.name ≤ b.name
  vs.forM fun v => say .out (word ++ " " ++ v.name ++ "=" ++ singleQuoted v.value ++ "\n")

def mark (word : String) (marked : Variable → Bool) (change : Variable → Variable) : Builtin
  | _, [] => do listing word marked; return 0
  | _, ["-p"] => do listing word marked; return 0
  | _, args => do
    args.forM fun arg => do
      let (name, value) := splitSetting arg
      match value with
      | some v => setVariable name v
      | none => pure ()
      changeVariable name change
    return 0

def localVariables : Builtin := fun _ args => do
  args.forM fun arg => do
    let (name, value) := splitSetting arg
    modify fun s =>
      { s with outer := s.outer ++ [(name, s.bindings.find? (·.name == name))] }
    match value with
    | some v => setVariable name v
    | none => pure ()
  return 0

def unset : Builtin
  | _, "-f" :: names => do
    modify fun s => { s with functions := s.functions.filter fun (n, _) => !names.contains n }
    return 0
  | _, "-v" :: names => do names.forM dropVariable; return 0
  | _, names => do names.forM dropVariable; return 0

def shift : Builtin := fun _ args => do
  let n ← match args with
    | [] => pure 1
    | arg :: _ => numberOf "shift" arg
  if n ≤ (← get).parameters.length then
    modify fun s => { s with parameters := s.parameters.drop n }
    return 0
  else fail "shift: can't shift that many"

def setOption (on : Bool) (c : Char) : ShellM Unit :=
  match c with
  | 'e' => modify fun s => { s with exitOnError := on }
  | 'u' => modify fun s => { s with refuseUnset := on }
  | 'x' => modify fun s => { s with trace := on }
  | _ =>
    if "abfhmnCvVI".toList.contains c then return
    else fail ("set: Illegal option " ++ (if on then "-" else "+") ++ String.singleton c)

def longOption : String → ShellM Char
  | "errexit" => return 'e'
  | "nounset" => return 'u'
  | "xtrace" => return 'x'
  | "noglob" => return 'f'
  | name => fail ("set: Illegal option -o " ++ name)

def setAll (ev : Evaluator) : List String → ShellM Nat
  | [] => return 0
  | "--" :: rest => do modify fun s => { s with parameters := rest }; return 0
  | "-o" :: name :: rest => do setOption true (← longOption name); setAll ev rest
  | "+o" :: name :: rest => do setOption false (← longOption name); setAll ev rest
  | arg :: rest =>
    match arg.toList with
    | '-' :: c :: cs => do (c :: cs).forM (setOption true); setAll ev rest
    | '+' :: c :: cs => do (c :: cs).forM (setOption false); setAll ev rest
    | _ => do modify fun s => { s with parameters := arg :: rest }; return 0

def event? (text : String) : Option TrapEvent :=
  if text = "EXIT" ∨ text = "0" then some .exit else (Signal.ofText? text).map .signal

def eventName : TrapEvent → String
  | .exit => "EXIT"
  | .signal s => s.name

def eventNumber : TrapEvent → Nat
  | .exit => 0
  | .signal s => s.number

def setTraps (action : Option String) : List String → ShellM Nat
  | [] => return 0
  | name :: rest => do
    match event? name with
    | none =>
      say .err ("trap: " ++ name ++ ": bad trap\n")
      return 1
    | some e =>
      modify fun s =>
        let others := s.traps.filter (·.1 != e)
        { s with traps := others ++ (action.map fun a => (e, a)).toList }
      setTraps action rest

def trap : Builtin
  | _, [] => do
    let traps := (← get).traps.mergeSort fun a b => eventNumber a.1 ≤ eventNumber b.1
    traps.forM fun (e, action) =>
      say .out ("trap -- " ++ singleQuoted action ++ " " ++ eventName e ++ "\n")
    return 0
  | ev, "--" :: args => trap ev args
  | _, "-" :: events => setTraps none events
  | _, [name] => setTraps none [name]
  | _, action :: events =>
    if action.toList.all Char.isDigit && action != "" then setTraps none (action :: events)
    else setTraps (some action) events

/-- What `kill` sends: a signal, or nothing. -/
def signalArgument (text : String) : Option (Option Signal) :=
  if text = "0" then some none else (Signal.ofText? text).map some

/-- Sends a signal to processes, of which the shell knows itself. -/
def sendTo (ev : Evaluator) (signal : Option Signal) : List String → ShellM Nat
  | [] => return 0
  | target :: rest => do
    let digits := if target.toList.head? = some '-' then target.toList.drop 1 else target.toList
    if !(digits.all Char.isDigit && !digits.isEmpty) then
      complainAs "kill" ("Illegal number: " ++ target)
      return 2
    let own := [toString processNumber,"0","-" ++ toString processNumber].contains target
    if own then
      match signal with
      | some s => receive ev s (!(← get).inner)
      | none => pure ()
      sendTo ev signal rest
    else
      let number := ((String.ofList digits).toNat?.getD 0) - processNumber
      if (← get).jobs.any (·.1 == number) then
        if signal.isSome then modify fun s => { s with jobs := s.jobs.filter (·.1 != number) }
        sendTo ev signal rest
      else
        complainAs "kill" "No such process\n"
        let _ ← sendTo ev signal rest
        return 1

def killUsage : String :=
  "Usage: kill [-s sigspec | -signum | -sigspec] [pid | job]... or\nkill -l [exitstatus]"

def kill : Builtin
  | _, [] => do complainAs "kill" killUsage; return 2
  | ev, "-s" :: name :: targets => do
    match signalArgument name with
    | some s => sendTo ev s targets
    | none => complainAs "kill" ("invalid signal number or name: " ++ name); return 2
  | ev, "--" :: targets => sendTo ev (some .terminate) targets
  | ev, arg :: targets =>
    match arg.toList with
    | '-' :: c :: cs =>
      match signalArgument (String.ofList (c :: cs)) with
      | some s => if targets.isEmpty then do complainAs "kill" killUsage; return 2
        else sendTo ev s targets
      | none => do complainAs "kill" ("Illegal option -" ++ String.singleton c); return 2
    | _ => sendTo ev (some .terminate) (arg :: targets)

def wait : Builtin := fun ev args => do
  let jobs := (← get).jobs
  modify fun s => { s with jobs := [] }
  let endings ← jobs.mapM fun (number, job) => do
    return (number, ← lift (job.ignoring (ignored (← get))))
  endings.forM fun (_, e) =>
    match e with
    | .killed signal false => receive ev signal false
    | _ => pure ()
  match args with
  | [] => return 0
  | arg :: _ =>
    let number := arg.toNat?.getD 0 - processNumber
    return match endings.lookup number with
      | some e => e.status
      | none => 127

def cd : Builtin := fun _ args => do
  let args := match args with
    | "--" :: rest => rest
    | "-P" :: rest => rest
    | "-L" :: rest => rest
    | rest => rest
  let (goal, shown) ← match args with
    | [] => do pure ((← lookupVariable "HOME").getD "", false)
    | "-" :: _ => do pure ((← lookupVariable "OLDPWD").getD "", true)
    | path :: _ => pure (path, false)
  let s ← get
  let place := Location.ofPath s.directory goal
  if (← lift Process.files).isDirectory place then
    setVariable "OLDPWD" (Location.path s.directory)
    setVariable "PWD" (Location.path place)
    modify fun s => { s with directory := place }
    if shown then say .out (Location.path place ++ "\n")
    return 0
  else
    complainAs "cd" ("can't cd to " ++ goal)
    return 2

def pwd : Builtin := fun _ _ => do
  say .out (Location.path (← get).directory ++ "\n")
  return 0

/-! ## Input and output -/

def echo : Builtin := fun _ args => do
  let (args, newline) := match args with
    | "-n" :: rest => (rest, false)
    | rest => (rest, true)
  let (bytes, stopped) := Format.escaped (" ".intercalate args)
  lift (Process.write .out (bytes ++ if newline && !stopped then [10] else []))
  return 0

def printf : Builtin
  | ev, "--" :: args => printf ev args
  | _, [] => do complainAs "printf" "usage: printf format [arg ...]"; return 2
  | _, format :: args => do
    match Format.printf format args with
    | .error (.invalid directive) =>
      complainAs "printf" (directive ++ ": invalid directive")
      return 2
    | .error .incomplete =>
      complainAs "printf" "missing format character"
      return 2
    | .ok (bytes, faults) =>
      faults.forM (complainAs "printf")
      lift (Process.write .out bytes)
      return if faults.isEmpty then 0 else 1

def readByte : ShellM (Except Signal (Option UInt8)) := do
  let s ← get
  lift (.read 1 (ignored s) fun
    | .ok bytes => .done (.ok bytes.head?)
    | .error signal => .done (.error signal))

def lineLimit : Nat := 65536

/-- A line that was read: its bytes, each with whether a backslash quotes it, and whether it ended with
    a line end. -/
structure InputLine where
  bytes : List (UInt8 × Bool) := []
  complete : Bool := false

/-- Reads a line. Unless `raw`, a backslash quotes the next byte, and a line end after one is dropped. -/
def readLine (raw : Bool) : Nat → InputLine → (quoted : Bool) → ShellM (InputLine × Option Signal)
  | 0, line, _ => return (line, none)
  | limit + 1, line, quoted => do
    match ← readByte with
    | .error signal => return (line, signal)
    | .ok none => return (line, none)
    | .ok (some b) =>
      if quoted then
        if b = 10 then readLine raw limit line false
        else readLine raw limit { line with bytes := line.bytes ++ [(b, true)] } false
      else if b = 10 then return ({ line with complete := true }, none)
      else if b = 92 ∧ !raw then readLine raw limit line true
      else readLine raw limit { line with bytes := line.bytes ++ [(b, false)] } false

def textOfBytes (bytes : List (UInt8 × Bool)) : String := Utf8.decodeLossy (bytes.map (·.1))

/-- Whether a byte is a separator, or one that is white space. -/
def separates (separators : List Char) (white : Bool) (b : UInt8 × Bool) : Bool :=
  let c := Char.ofNat b.1.toNat
  !b.2 && separators.contains c && (!white || c.isWhitespace)

def dropWhite (separators : List Char) (bytes : List (UInt8 × Bool)) : List (UInt8 × Bool) :=
  bytes.dropWhile (separates separators true)

/-- Puts the parts of a line into variables; the last one gets all that is left. -/
def assign (separators : List Char) : List String → List (UInt8 × Bool) → ShellM Unit
  | [], _ => return
  | [name], bytes => do
    let bytes := dropWhite separators bytes
    let kept := (bytes.reverse.dropWhile (separates separators true)).reverse
    setVariable name (textOfBytes kept)
  | name :: names, bytes => do
    let bytes := dropWhite separators bytes
    let part := bytes.takeWhile fun b => !separates separators false b
    let rest := dropWhite separators (bytes.drop part.length)
    let rest := match rest with
      | b :: more => if separates separators false b then more else rest
      | [] => []
    setVariable name (textOfBytes part)
    assign separators names rest

def read : Builtin := fun ev args => do
  let raw := args.head? == some "-r"
  let names := if raw then args.drop 1 else args
  if names.isEmpty then
    complainAs "read" "arg count"
    return 2
  let (line, signal) ← readLine raw lineLimit {} false
  assign (← separators) names line.bytes
  let status := if line.complete then 0 else 1
  if let some signal := signal then
    setStatus status
    receive ev signal false
  return status

def test (name : String) : Builtin := fun _ args => do
  let terminal ← lift (.configure id fun mode => .done mode.isSome)
  let files ← lift Process.files
  match Condition.evaluateCall ⟨files,(← get).directory,terminal⟩ name args with
  | .ok true => return 0
  | .ok false => return 1
  | .error f =>
    complainAs name f.message
    return 2

/-- The special commands: settings before them stay, and their faults end the shell. -/
def special? : String → Option Builtin
  | ":" => some fun _ _ => return 0
  | "break" => some (leaveLoops "break" false)
  | "continue" => some (leaveLoops "continue" true)
  | "." => some source
  | "eval" => some eval
  | "exit" => some exit
  | "export" => some (mark "export" (·.exported) fun v => { v with exported := true })
  | "readonly" => some (mark "readonly" (·.fixed) fun v => { v with fixed := true })
  | "return" => some leave
  | "set" => some setAll
  | "shift" => some shift
  | "trap" => some trap
  | "unset" => some unset
  | _ => none

def regular? : String → Option Builtin
  | "true" => some fun _ _ => return 0
  | "false" => some fun _ _ => return 1
  | "cd" => some cd
  | "echo" => some echo
  | "kill" => some kill
  | "local" => some localVariables
  | "printf" => some printf
  | "pwd" => some pwd
  | "read" => some read
  | "test" => some (test "test")
  | "[" => some (test "[")
  | "umask" => some fun _ _ => do say .out "0022\n"; return 0
  | "wait" => some wait
  | _ => none

def isBuiltin (name : String) : Bool :=
  (special? name).isSome || (regular? name).isSome || name == "exec" || name == "command"

end Builtin
end TabCompletion.Script
