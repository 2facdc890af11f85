import TabCompletion.Process.Compose
import TabCompletion.Script.Parser

/-!
# The state of a shell

What a shell remembers from one command to the next, and `ShellM`, the parts of its work: a part may
print, wait and change the state, and may leave the normal course of the script (`Escape`). A shell
starts other programs (`Program`) and shells like itself (`subshell`), and may run text as commands;
how commands run is a parameter here (`Evaluator`).
-/
namespace TabCompletion

/-- What a program gets besides its arguments: its name as it was called, the working directory and
    the environment. -/
structure Surroundings where
  name : String := ""
  directory : Location
  environment : List (String × String) := []
  deriving DecidableEq, Repr, Inhabited

abbrev Program := Surroundings → List String → Process Ending

abbrev Programs := String → Option Program

namespace Programs

def directories : List Location := [["bin"],["usr","bin"],["usr","local","bin"]]

def standardPath : String := "/bin:/usr/bin"

/-- The program that a name leads to, seen from a directory: a path to it, or a name that is searched
    in the directories of a search path. -/
def locate? (programs : Programs) (directory : Location) (search name : String) : Option Program :=
  let holds (path : List Char) : Bool := directories.contains (.ofPath directory (String.ofList path))
  if name.toList.contains '/' then
    let place := Location.ofPath directory name
    if directories.contains place.dropLast then place.getLast?.bind programs else none
  else if (search.toList.splitOn ':').any holds then programs name
  else none

end Programs

namespace Script

structure Variable where
  name : String
  value : String
  exported : Bool := false
  fixed : Bool := false
  deriving DecidableEq, Repr, Inhabited

inductive TrapEvent where
  | exit
  | signal (s : Signal)
  deriving DecidableEq, Repr, Inhabited

structure ShellState where
  name : String := "sh"
  parameters : List String := []
  bindings : List Variable := []
  functions : List (String × Command) := []
  status : Nat := 0
  /-- The status of the last expansion by output in a command. -/
  expansionStatus : Option Nat := none
  traps : List (TrapEvent × String) := []
  directory : Location
  line : Nat := 1
  streams : Process.Streams := {}
  started : Nat := 0
  /-- The commands in the background that were not waited for, by their numbers. -/
  jobs : List (Nat × Process Ending) := []
  /-- How many loops the command is in. -/
  loops : Nat := 0
  /-- What the variables were that a function has made local. -/
  outer : List (String × Option Variable) := []
  exitOnError : Bool := false
  refuseUnset : Bool := false
  trace : Bool := false
  /-- Whether this is a shell inside of the one that was started. -/
  inner : Bool := false
  deriving Inhabited

inductive Escape where
  | exit (status : Nat)
  | killed (signal : Signal) (alone : Bool)
  /-- Leaves loops, and goes on with the next round of the last one if so told. -/
  | leaveLoops (count : Nat) (goOn : Bool)
  | leaveFunction (status : Nat)
  deriving DecidableEq, Repr, Inhabited

abbrev ShellM := ExceptT Escape (StateT ShellState Process)

/-- How commands are run. A command is `tested` if something depends on whether it succeeds. -/
structure Evaluator where
  programs : Programs
  run : (tested : Bool) → Command → ShellM Unit

namespace ShellM

variable {α : Type}

def lift (p : Process α) : ShellM α := fun s =>
  (p.through s.streams).bind fun (a, input) =>
    .done (.ok a, { s with streams := { s.streams with input } })

def say (stream : Stream) (text : String) : ShellM Unit := lift (Process.say stream text)

/-- Prints a message on the standard error, after the name of the shell and the line. -/
def complain (message : String) : ShellM Unit := do
  let s ← get
  say .err (s.name ++ s!": {s.line}: " ++ message ++ "\n")

def setStatus (status : Nat) : ShellM Unit := modify fun s => { s with status }

def fail (message : String) : ShellM α := do
  complain message
  throw (.exit 2)

def lookupVariable (name : String) : ShellM (Option String) :=
  return ((← get).bindings.find? (·.name == name)).map (·.value)

def changeVariable (name : String) (change : Variable → Variable) : ShellM Unit :=
  modify fun s =>
    if s.bindings.any (·.name == name) then
      { s with bindings := s.bindings.map fun v => if v.name == name then change v else v }
    else { s with bindings := s.bindings ++ [change ⟨name,"",false,false⟩] }

def setVariable (name value : String) : ShellM Unit := do
  if (← get).bindings.any fun v => v.name == name && v.fixed then fail (name ++ ": is read only")
  else changeVariable name fun v => { v with value }

def dropVariable (name : String) : ShellM Unit :=
  modify fun s => { s with bindings := s.bindings.filter (·.name != name) }

def environment (s : ShellState) : List (String × String) :=
  (s.bindings.filter (·.exported)).map fun v => (v.name, v.value)

def ignored (s : ShellState) : List Signal :=
  s.traps.filterMap fun
    | (.signal g, "") => some g
    | _ => none

def trap? (event : TrapEvent) : ShellM (Option String) := return (← get).traps.lookup event

def runLines (ev : Evaluator) (tested : Bool) : Nat → List PlacedToken → ShellM Unit
  | 0, _ => return
  | n + 1, tokens => do
    match nextLine tokens with
    | .error f =>
      modify fun s => { s with line := f.line }
      fail f.fault.message
    | .ok none => return
    | .ok (some (c, rest)) =>
      ev.run tested c
      runLines ev tested n rest

def runText (ev : Evaluator) (tested : Bool) (text : String) : ShellM Unit :=
  let tokens := Token.ofText text
  runLines ev tested (tokens.length + 1) tokens

/-- Runs the action of a trap, which does not change the status. -/
def runTrap (ev : Evaluator) (action : String) : ShellM Unit := do
  let status := (← get).status
  runText ev false action
  setStatus status

def receive (ev : Evaluator) (signal : Signal) (alone : Bool) : ShellM Unit := do
  let action ← trap? (.signal signal)
  match if signal = .kill then none else action with
  | none => throw (.killed signal alone)
  | some "" => return
  | some action => runTrap ev action

def afterChild (ev : Evaluator) (e : Ending) : ShellM Unit := do
  setStatus e.status
  match e with
  | .exited _ => return
  | .killed signal alone =>
    let trapped := (← trap? (.signal signal)).isSome
    if (alone || trapped) && signal != .interrupt then say .err (signal.obituary ++ "\n")
    if !alone then receive ev signal alone

def escapeStatus : Escape → ShellState → Nat
  | .exit status, _ => status
  | .leaveFunction status, _ => status
  | _, s => s.status

/-- Ends a shell: the action for its end is run, unless it is killed. -/
def conclude (ev : Evaluator) (outcome : Except Escape Unit) : ShellM Ending := do
  match outcome with
  | .error (.killed signal alone) => return .killed signal alone
  | _ =>
    let s ← get
    let status := match outcome with
      | .ok _ => s.status
      | .error e => escapeStatus e s
    match s.traps.lookup .exit with
    | none => return .exited status
    | some action =>
      modify fun s => { s with status, traps := s.traps.filter (·.1 != .exit) }
      runText ev false action
      return .exited status

def toProcess (ev : Evaluator) (s : ShellState) (m : ShellM Unit) : Process Ending :=
  (m s).bind fun (outcome, s) =>
    (conclude ev outcome s).bind fun
      | (.ok e, _) => .done e
      | (.error (.killed signal alone), _) => .done (.killed signal alone)
      | (.error e, s) => .done (.exited (escapeStatus e s))

/-- The state of a shell inside of another one: it has the same values, but not its traps. Its streams
    are those that it is given. -/
def innerState (s : ShellState) : ShellState :=
  { s with
    traps := s.traps.filter fun (e, action) => action == "" && e != .exit
    streams := {}
    jobs := []
    inner := true }

/-- A shell inside of this one, whose state does not come back. -/
def subshell (ev : Evaluator) (m : ShellM Unit) : ShellM (Process Ending) :=
  return toProcess ev (innerState (← get)) m

/-- Runs a program that keeps ignoring what the shell ignores. -/
def runProgram (ev : Evaluator) (p : Process Ending) : ShellM Unit := do
  let s ← get
  afterChild ev (← lift (p.ignoring (ignored s)))

end ShellM
end Script
end TabCompletion
