import TabCompletion.CommandLine.Specification

/-!
# Arguments

Reading the command line. Arguments are read from left to right, and the first one that is wrong, or
that asks for help, decides. `parse` gives the request; a flag of the program counts before and after
the command.
-/
namespace TabCompletion.CommandLine

inductive UsageError where
  | unexpected (argument : String)
  | missingValue (option : String)
  | unneededValue (option : String)
  | invalidValue (value of : String)
  | repeated (option : String)
  | missingCommand
  | unknownCommand (name : String)
  | missingArguments (names : List String)
  deriving DecidableEq, Repr, Inhabited

def UsageError.message : UsageError → String
  | unexpected a => "unexpected argument '" ++ a ++ "' found"
  | missingValue o => "a value is required for '" ++ o ++ "' but none was supplied"
  | unneededValue o => "unexpected value for '" ++ o ++ "' found; no more were expected"
  | invalidValue v o => "invalid value '" ++ v ++ "' for '" ++ o ++ "'"
  | repeated o => "the argument '" ++ o ++ "' cannot be used multiple times"
  | missingCommand => "'tabprobe' requires a subcommand but one was not provided"
  | unknownCommand n => "unrecognized subcommand '" ++ n ++ "'"
  | missingArguments ns =>
    "the following required arguments were not provided:" ++ String.join (ns.map ("\n  " ++ ·))

/-- Why no request is read: help or the version is asked for, or something is wrong. -/
inductive Stop where
  /-- The help of a command, or of the program; the long form has more. -/
  | help (command : Option String) (long : Bool)
  | version
  | nothing
  | usage (e : UsageError)
  deriving DecidableEq, Repr, Inhabited

structure Found where
  options : List (String × Option String) := []
  operands : List String := []
  deriving DecidableEq, Repr, Inhabited

namespace Found

def has (f : Found) (long : String) : Bool := f.options.any (·.1 == long)

def value? (f : Found) (long : String) : Option String := (f.options.lookup long).join

end Found

/-- Where options are read: which there are, and what stands between them. The operands before the
    command of a program are not read. -/
structure Level where
  command : Option String
  options : List OptionSpec
  operand : Option OperandSpec

def isOption (argument : String) : Bool := argument.startsWith "-" && argument != "-"

def addOption (o : OptionSpec) (value : Option String) (f : Found) : Except Stop Found :=
  let shown := "--" ++ o.long
  match o.value, value with
  | some spec, some v =>
    if !spec.allows v then .error (.usage (.invalidValue v shown))
    else if f.has o.long then .error (.usage (.repeated shown))
    else .ok { f with options := f.options ++ [(o.long, some v)] }
  | some _, none => .error (.usage (.missingValue shown))
  | none, some _ => .error (.usage (.unneededValue shown))
  | none, none =>
    if f.has o.long then .error (.usage (.repeated shown))
    else .ok { f with options := f.options ++ [(o.long, none)] }

/-- Adds a flag. Those for help and the version end the reading. -/
def addFlag (level : Level) (o : OptionSpec) (long : Bool) (f : Found) : Except Stop Found :=
  if o.long == helpFlag.long then .error (.help level.command long)
  else if o.long == versionFlag.long then .error .version
  else addOption o none f

def addGroup (level : Level) : List Char → Found → Except Stop Found
  | [], f => .ok f
  | c :: rest, f =>
    match level.options.find? (·.short == some c) with
    | none => .error (.usage (.unexpected ("-" ++ c.toString)))
    | some o => do addGroup level rest (← addFlag level o false f)

def addOperand (spec : OperandSpec) (argument : String) (f : Found) : Except Stop Found :=
  match spec with
  | .one value _ =>
    if !f.operands.isEmpty then .error (.usage (.unexpected argument))
    else if !value.allows argument then .error (.usage (.invalidValue argument value.name))
    else .ok { f with operands := [argument] }
  | _ => .error (.usage (.unexpected argument))

/-- Adds what stands after `--`. -/
def addRest (spec : OperandSpec) (arguments : List String) (f : Found) : Except Stop Found :=
  match spec with
  | .afterDashes _ => .ok { f with operands := f.operands ++ arguments }
  | _ => arguments.foldlM (fun f a => addOperand spec a f) f

def splitOption (argument : String) : String × Option String :=
  let body := argument.toList.drop 2
  let name := body.takeWhile (· != '=')
  match body.drop name.length with
  | [] => (String.ofList name, none)
  | _ :: value => (String.ofList name, some (String.ofList value))

/-- An option in its long form: it is added, or its value comes next. -/
def addLong (level : Level) (argument : String) (f : Found) : Except Stop (Found × Option OptionSpec) :=
  let (name, value) := splitOption argument
  match level.options.find? (·.long == name) with
  | none => .error (.usage (.unexpected argument))
  | some o =>
    match o.value, value with
    | some _, none => .ok (f, o)
    | none, none => do return (← addFlag level o true f, none)
    | _, some v => do return (← addOption o v f, none)

/-- Reads the arguments of a level, the first of which may be the value of an option: what is found,
    and what is left. -/
def scan (level : Level) : List String → Option OptionSpec → Found → Except Stop (Found × List String)
  | [], none, f => .ok (f, [])
  | [], some o, _ => .error (.usage (.missingValue o.long))
  | a :: rest, some o, f =>
    if isOption a then .error (.usage (.missingValue o.long))
    else do scan level rest none (← addOption o a f)
  | a :: rest, none, f =>
    if a == "--" then do return (← addRest (level.operand.getD .none) rest f, [])
    else if a.startsWith "--" then do
      let (f, o) ← addLong level a f
      scan level rest o f
    else if isOption a then do scan level rest none (← addGroup level (a.toList.drop 1) f)
    else
      match level.operand with
      | none => .ok (f, a :: rest)
      | some spec => do scan level rest none (← addOperand spec a f)

structure RunRequest where
  suite : String
  config : Option String
  json : Bool
  deriving DecidableEq, Repr, Inhabited

structure ProbeRequest where
  prompt : String
  context : Option String
  input : String
  lines : Bool
  lossy : Bool
  config : Option String
  json : Bool
  shell : String
  args : List String
  deriving DecidableEq, Repr, Inhabited

inductive Request where
  | run (r : RunRequest) (verbose : Bool)
  | probe (r : ProbeRequest)
  | completions (shell : ScriptShell)
  deriving DecidableEq, Repr, Inhabited

def missing (c : CommandSpec) (f : Found) : List String :=
  let options := c.options.filter fun o => o.required && !f.has o.long
  let operand := match c.operand with
    | .none => []
    | .one v _ => if f.operands.isEmpty then ["<" ++ v.name ++ ">"] else []
    | .afterDashes v => if f.operands.isEmpty then ["<" ++ v.name ++ ">..."] else []
  options.map (fun o => "--" ++ o.long) ++ operand

def requestOf (name : String) (verbose : Bool) (f : Found) : Request :=
  let operand := f.operands.headD ""
  if name == runCommand.name then
    .run ⟨(f.value? "suite").getD "",f.value? "config",f.has "json"⟩ (verbose || f.has "verbose")
  else if name == probeCommand.name then
    .probe ⟨(f.value? "prompt").getD "",f.value? "context",(f.value? "input").getD "",
      f.has "lines",f.has "lossy",f.value? "config",f.has "json",operand,f.operands.drop 1⟩
  else .completions ((ScriptShell.all.find? (·.name == operand)).getD .bash)

def helpFor (p : ProgramSpec) : List String → Stop
  | [] => .help none true
  | [name] =>
    if (helpCommand :: p.commands).any (·.name == name) then .help (some name) true
    else .usage (.unknownCommand name)
  | name :: next :: _ =>
    if (helpCommand :: p.commands).any (·.name == name) then .usage (.unknownCommand next)
    else .usage (.unknownCommand name)

def parseCommand (p : ProgramSpec) (c : CommandSpec) (verbose : Bool) (arguments : List String) :
    Except Stop Request := do
  let level : Level := ⟨some c.name,c.options ++ p.options ++ [helpFlag],some c.operand⟩
  let (f, _) ← scan level arguments none {}
  match missing c f with
  | [] => return requestOf c.name verbose f
  | names => throw (.usage (.missingArguments names))

def parse (p : ProgramSpec) (arguments : List String) : Except Stop Request := do
  if arguments.isEmpty then throw .nothing
  let (f, rest) ← scan ⟨none,p.options ++ [helpFlag,versionFlag],none⟩ arguments none {}
  match rest with
  | [] => throw (.usage .missingCommand)
  | name :: rest =>
    if name == helpCommand.name then throw (helpFor p rest)
    match p.commands.find? (·.name == name) with
    | none => throw (.usage (.unknownCommand name))
    | some c => parseCommand p c (f.has "verbose") rest

end TabCompletion.CommandLine
