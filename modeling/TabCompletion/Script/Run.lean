import TabCompletion.Script.Builtin

/-!
# Running shell commands

The rules by which commands run: words are expanded, redirections are made, and the first word
decides whether a command is special, a function, of the shell, or a program. `Command.step` runs a
command whose parts are run by an evaluator; `evaluator` ties the knot with an explicit depth, and a
shell that comes to the end of it waits for ever. `shell` is the shell as a program.
-/
namespace TabCompletion.Script
open ShellM Expansion

def setStream (descriptor : Nat) (target : Target) (streams : Process.Streams) : Process.Streams :=
  match descriptor with
  | 1 => { streams with out := target }
  | 2 => { streams with err := target }
  | _ => streams

def streamTarget? (streams : Process.Streams) (descriptor : String) : Option Target :=
  match descriptor with
  | "1" => some streams.out
  | "2" => some streams.err
  | "-" => some .nowhere
  | _ => none

def outputDevice? (streams : Process.Streams) : String → Option Target
  | "/dev/null" => some .nowhere
  | "/dev/zero" => some .nowhere
  | "/dev/tty" => some (.stream .out)
  | "/dev/stdout" => some streams.out
  | "/dev/stderr" => some streams.err
  | _ => none

def inputDevice? : String → Option (Option Supply)
  | "/dev/null" => some (some (.held []))
  | "/dev/zero" => some (some .zeros)
  | "/dev/tty" => some none
  | "/dev/stdin" => some none
  | _ => none

def createMessage (path : String) : FileFault → String
  | .directory => "cannot create " ++ path ++ ": Is a directory"
  | _ => "cannot create " ++ path ++ ": Directory nonexistent"

def redirectOnce (ev : Evaluator) (streams : Process.Streams) (r : Redirection) :
    ShellM (Except String Process.Streams) := do
  let text ← expandText ev r.target
  let place := Location.ofPath (← get).directory text
  match r.kind with
  | .document => return .ok { streams with input := some (.held (Utf8.encode text)) }
  | .duplicate =>
    if r.descriptor = 0 then
      return .ok (if text = "-" then { streams with input := some (.held []) } else streams)
    else
      match streamTarget? streams text with
      | some t => return .ok (setStream r.descriptor t streams)
      | none => return .error (text ++ ": Bad file descriptor")
  | .read =>
    match inputDevice? text with
    | some input => return .ok { streams with input }
    | none =>
      let files ← lift Process.files
      match if text.isEmpty then .error .missing else files.read place with
      | .ok bytes => return .ok { streams with input := some (.held bytes) }
      | .error .directory => return .ok { streams with input := some (.held []) }
      | .error _ => return .error ("cannot open " ++ text ++ ": No such file")
  | kind =>
    match outputDevice? streams text with
    | some t => return .ok (setStream r.descriptor t streams)
    | none =>
      let files ← lift Process.files
      match if text.isEmpty then some .missing else files.writeFault? place with
      | some fault => return .error (createMessage text fault)
      | none =>
        lift <| Process.modifyFiles fun f =>
          f.put place (if kind = .append then (f.find? place).getD [] else [])
        return .ok (setStream r.descriptor (.file place) streams)

def redirectAll (ev : Evaluator) :
    List Redirection → Process.Streams → ShellM (Except String Process.Streams)
  | [], streams => return .ok streams
  | r :: rest, streams => do
    match ← redirectOnce ev streams r with
    | .ok streams => redirectAll ev rest streams
    | .error message => return .error message

def isSpecial : Command → Bool
  | .simple c =>
    match c.words.head?.bind plainText? with
    | some name => (Builtin.special? name).isSome || name == "exec"
    | none => false
  | _ => false

def keepsStreams : Command → Bool
  | .simple c => c.words.map plainText? == [some "exec"]
  | _ => false

/-- Runs something with the streams changed. The input before it comes back unless it was the same. -/
def withStreams (streams : Process.Streams) (keep : Bool) (m : ShellM Unit) : ShellM Unit := do
  let before := (← get).streams
  modify fun s => { s with streams }
  let restore : ShellM Unit := do
    if !keep then
      modify fun s =>
        let input := if streams.input = before.input then s.streams.input else before.input
        { s with streams := { before with input } }
  try m catch e =>
    restore
    throw e
  restore

inductive Found where
  | program (p : Program)
  | missing
  | forbidden

def findProgram (programs : Programs) (name : String) : ShellM Found := do
  let s ← get
  let search := (← lookupVariable "PATH").getD Programs.standardPath
  match programs.locate? s.directory search name with
  | some p => return .program p
  | none =>
    let present := (← lift Process.files).has (.ofPath s.directory name)
    return if name.toList.contains '/' && present then .forbidden else .missing

def launch (p : Program) (name : String) (args : List String) : ShellM (Process Ending) := do
  let s ← get
  return p ⟨name,s.directory,environment s⟩ args

def runNamed (ev : Evaluator) (name : String) (args : List String) : ShellM Unit := do
  match ← findProgram ev.programs name with
  | .program p => runProgram ev (← launch p name args)
  | .missing => complain (name ++ ": not found"); setStatus 127
  | .forbidden => complain (name ++ ": Permission denied"); setStatus 126

def replaceBy (ev : Evaluator) (name : String) (args : List String) : ShellM Unit := do
  match ← findProgram ev.programs name with
  | .program p =>
    let s ← get
    let e ← lift ((← launch p name args).ignoring (ignored s))
    modify fun s => { s with traps := [] }
    match e with
    | .exited status => throw (.exit status)
    | .killed signal alone => throw (.killed signal alone)
  | .missing =>
    complain ("exec: " ++ name ++ ": not found")
    throw (.exit 127)
  | .forbidden =>
    complain ("exec: " ++ name ++ ": Permission denied")
    throw (.exit 126)

/-! ## Simple commands -/

def callFunction (ev : Evaluator) (tested : Bool) (body : Command) (args : List String) :
    ShellM Unit := do
  let before ← get
  modify fun s => { s with parameters := args, outer := [], loops := 0 }
  let restore : ShellM Unit :=
    modify fun s =>
      let bindings := s.outer.reverse.foldl (fun vs (name, old) =>
        vs.filter (·.name != name) ++ old.toList) s.bindings
      { s with
        bindings, parameters := before.parameters, outer := before.outer, loops := before.loops }
  try ev.run tested body catch e =>
    restore
    match e with
    | .leaveFunction status => setStatus status; return
    | e => throw e
  restore

/-- The bindings after variables were set for a while: each of those is again as it was before. -/
def bindingsWithout (settings : List (String × String)) (before now : List Variable) :
    List Variable :=
  let isSet (v : Variable) : Bool := settings.any (·.1 == v.name)
  now.filter (!isSet ·) ++ before.filter isSet

/-- Runs something with variables set, whose values come back afterwards. -/
def withSettings (settings : List (String × String)) (m : ShellM Unit) : ShellM Unit := do
  let before := (← get).bindings
  settings.forM fun (name, value) => do
    setVariable name value
    changeVariable name fun v => { v with exported := true }
  m
  modify fun s => { s with bindings := bindingsWithout settings before s.bindings }

/-- Runs a command that is not special, after its name was looked up. -/
def runOrdinary (ev : Evaluator) (tested functions : Bool) (name : String) (args : List String) :
    ShellM Unit := do
  let s ← get
  match if functions then s.functions.lookup name else none with
  | some body => callFunction ev tested body args
  | none =>
    match Builtin.regular? name with
    | some b => setStatus (← b ev args)
    | none => runNamed ev name args

def describeName (ev : Evaluator) (name : String) : ShellM Unit := do
  let known := Builtin.isBuiltin name || ((← get).functions.lookup name).isSome ||
    Parse.reservedWords.contains name
  if known then
    say .out (name ++ "\n")
    setStatus 0
  else
    match ← findProgram ev.programs name with
    | .program _ =>
      say .out ((if name.toList.contains '/' then name else "/usr/bin/" ++ name) ++ "\n")
      setStatus 0
    | _ => setStatus 127

def runWords (ev : Evaluator) (tested : Bool) (settings : List (String × String)) (name : String)
    (args : List String) : ShellM Unit := do
  match name, args with
  | "exec", [] => setStatus 0
  | "exec", program :: args => withSettings settings (replaceBy ev program args)
  | "command", "-v" :: names => describeName ev (names.headD "")
  | "command", name :: args =>
    match Builtin.special? name with
    | some b => setStatus (← b ev args)
    | none => withSettings settings (runOrdinary ev tested false name args)
  | "command", [] => setStatus 0
  | _, _ =>
    match Builtin.special? name with
    | some b =>
      settings.forM fun (n, v) => setVariable n v
      setStatus (← b ev args)
    | none => withSettings settings (runOrdinary ev tested true name args)

def showTrace (settings : List (String × String)) (words : List String) : ShellM Unit := do
  if (← get).trace then
    say .err ("+ " ++ " ".intercalate (settings.map (fun (n, v) => n ++ "=" ++ v) ++ words) ++ "\n")

def checkFailure (tested : Bool) : ShellM Unit := do
  let s ← get
  if s.exitOnError && !tested && s.status != 0 then throw (.exit s.status)

/-- The values of settings. Each is set when it is known, so that those after it see it. -/
def makeSettings (ev : Evaluator) (settings : List (String × Word)) :
    ShellM (List (String × String)) :=
  settings.mapM fun (name, w) => do
    let value ← expandText ev w
    setVariable name value
    return (name, value)

def runSimple (ev : Evaluator) (tested : Bool) (c : SimpleCommand) : ShellM Unit := do
  modify fun s => { s with line := c.line, expansionStatus := none }
  let words ← expandAll ev c.words
  let before := (← get).bindings
  let settings ← makeSettings ev c.settings
  showTrace settings words
  match words with
  | [] => setStatus ((← get).expansionStatus.getD 0)
  | name :: args =>
    modify fun s => { s with bindings := bindingsWithout settings before s.bindings }
    runWords ev tested settings name args
  checkFailure tested

/-! ## Compound commands -/

/-- Processes of which each reads what the one before it prints. -/
def joined (first : Process Ending) : List (Process Ending) → Process Ending
  | [] => first
  | next :: rest => (joined next rest).pipe [] fun _ => first

/-- Runs the body of a loop once: whether the loop goes on. -/
def runBody (m : ShellM Unit) : ShellM Bool := do
  modify fun s => { s with loops := s.loops + 1 }
  let leave : ShellM Unit := modify fun s => { s with loops := s.loops - 1 }
  let goesOn ← try
      m
      pure true
    catch e =>
      match e with
      | .leaveLoops count goOn =>
        if count ≤ 1 then pure goOn
        else
          leave
          throw (.leaveLoops (count - 1) goOn)
      | e =>
        leave
        throw e
  leave
  return goesOn

/-- Runs a loop as long as its test says; the status is that of the last body. -/
def runLoop (ev : Evaluator) (tested whileFailing : Bool) (test body : Command) :
    Nat → Nat → ShellM Unit
  | 0, _ => ev.run tested (.loop whileFailing test body)
  | rounds + 1, last => do
    let more ← runBody do
      ev.run true test
      if ((← get).status == 0) == whileFailing then
        setStatus last
        throw (.leaveLoops 1 false)
      ev.run tested body
    if more then runLoop ev tested whileFailing test body rounds (← get).status else return

def runEach (ev : Evaluator) (tested : Bool) (name : String) (body : Command) :
    List String → ShellM Unit
  | [] => return
  | value :: rest => do
    let more ← runBody do
      setVariable name value
      ev.run tested body
    if more then runEach ev tested name body rest else return

def runChoice (ev : Evaluator) (tested : Bool) (subject : String) :
    List (List Word × Command) → ShellM Unit
  | [] => setStatus 0
  | (patterns, body) :: rest => do
    let hits ← patterns.mapM fun w => return Glob.isMatch (← expandPattern ev w) subject
    if hits.any id then ev.run tested body else runChoice ev tested subject rest

/-- Runs a command, whose parts the evaluator runs. -/
def Command.step (ev : Evaluator) (rounds : Nat) (tested : Bool) : Command → ShellM Unit
  | .simple c => runSimple ev tested c
  | .redirected c line rs => do
    modify fun s => { s with line }
    match ← redirectAll ev rs (← get).streams with
    | .ok streams => withStreams streams (keepsStreams c) (ev.run tested c)
    | .error message =>
      complain message
      setStatus 2
      if isSpecial c then throw (.exit 2)
      checkFailure tested
  | .pipeline c rest => do
    let first ← ShellM.subshell ev (ev.run false c)
    let others ← rest.mapM fun c => ShellM.subshell ev (ev.run false c)
    afterChild ev (← lift (joined first others))
    checkFailure tested
  | .negated c => do
    ev.run true c
    setStatus (if (← get).status = 0 then 1 else 0)
  | .both first second => do
    ev.run true first
    if (← get).status = 0 then ev.run tested second
  | .either first second => do
    ev.run true first
    if (← get).status ≠ 0 then ev.run tested second
  | .sequence cs => do
    if cs.isEmpty then setStatus 0
    cs.forM (ev.run tested)
  | .background c => do
    let job ← lift (← ShellM.subshell ev (ev.run false c)).untilBlocked
    modify fun s =>
      { s with status := 0, started := s.started + 1, jobs := s.jobs ++ [(s.started + 1, job)] }
  | .subshell c => do
    afterChild ev (← lift (← ShellM.subshell ev (ev.run tested c)))
    checkFailure tested
  | .branch test yes no => do
    ev.run true test
    ev.run tested (if (← get).status = 0 then yes else no)
  | .loop whileFailing test body => runLoop ev tested whileFailing test body rounds 0
  | .each name words body => do
    let values ← match words with
      | some ws => expandAll ev ws
      | none => pure (← get).parameters
    setStatus 0
    runEach ev tested name body values
  | .choose subject branches => do runChoice ev tested (← expandText ev subject) branches
  | .define name body => do
    modify fun s => { s with functions := (name, body) :: s.functions.filter (·.1 != name) }
    setStatus 0

def waitForEver : ShellM Unit := do
  let s ← get
  lift (.sleep none (ignored s) fun _ => .done ())
  throw (.killed .terminate false)

def evaluator (programs : Programs) : Nat → Evaluator
  | 0 => ⟨programs,fun _ _ => waitForEver⟩
  | depth + 1 =>
    ⟨programs,fun tested c => Command.step (evaluator programs depth) depth tested c⟩

/-- How deep commands may be nested, and how often loops may go round. -/
def depthLimit : Nat := 20000

structure Invocation where
  script : Option String := none
  /-- Whether the commands are the first argument that is left. -/
  inline : Bool := false
  options : List Char := []
  arguments : List String := []

def invocation (i : Invocation) : List String → Invocation
  | [] => i
  | arg :: rest =>
    match arg.toList with
    | ['-','-'] => { i with arguments := rest }
    | '-' :: c :: cs =>
      let letters := c :: cs
      invocation
        { i with inline := i.inline || letters.contains 'c', options := i.options ++ letters } rest
    | _ => { i with arguments := arg :: rest }

def allInput : Nat → Bytes → Process Bytes
  | 0, bytes => .done bytes
  | n + 1, bytes =>
    .read 4096 [] fun
      | .ok [] => .done bytes
      | .ok more => allInput n (bytes ++ more)
      | .error _ => .done bytes

def start (ev : Evaluator) (i : Invocation) (state : ShellState) (script : String) :
    Process Ending :=
  toProcess ev state do
    i.options.forM fun c => if "euxc".toList.contains c then
        (if c = 'c' then pure () else Builtin.setOption true c)
      else if "il".toList.contains c || c = 's' then pure ()
      else do
        modify fun s => { s with line := 0 }
        fail ("Illegal option -" ++ String.singleton c)
    runText ev false script

/-- The shell as a program: it runs its argument, a file, or its input. -/
def shell (programs : Programs) : Program := fun around args =>
  let ev := evaluator programs depthLimit
  let i := invocation {} args
  let bindings := around.environment.map fun (name, value) => Variable.mk name value true false
  let base : ShellState :=
    { name := around.name, directory := around.directory
      bindings := bindings.filter (·.name != "PWD") ++
        [⟨"PWD",Location.path around.directory,true,false⟩] }
  let failure (message : String) : Process Ending :=
    (Process.say .err (around.name ++ ": 0: " ++ message ++ "\n")).bind fun _ => .done (.exited 2)
  if i.inline then
    match i.arguments with
    | [] => failure "-c requires an argument"
    | script :: rest =>
      start ev i { base with name := rest.headD base.name, parameters := rest.drop 1 } script
  else
    match i.arguments with
    | [] => (allInput 100000 []).bind fun bytes => start ev i base (Utf8.decodeLossy bytes)
    | path :: rest =>
      Process.files.bind fun files =>
        match files.read (Location.ofPath around.directory path) with
        | .ok bytes =>
          start ev i { base with name := path, parameters := rest } (Utf8.decodeLossy bytes)
        | .error _ => failure ("cannot open " ++ path ++ ": No such file")

end TabCompletion.Script
