/-!
# Specification of the command line

What may be written on the command line, as data: `Arguments` reads it, `Help` shows it, and
`Scripts` tells it to shells, so that the three agree.
-/
namespace TabCompletion.CommandLine

structure Choice where
  name : String
  help : Option String := none
  deriving Repr, Inhabited

inductive ValueKind where
  | text
  /-- A path, which is not empty. -/
  | path
  | choice (choices : List Choice)
  deriving Repr, Inhabited

/-- A value: the name by which help speaks of it, and what it may be. -/
structure ValueSpec where
  name : String
  kind : ValueKind := .text
  deriving Repr, Inhabited

def ValueSpec.choices (v : ValueSpec) : List Choice :=
  match v.kind with
  | .choice choices => choices
  | _ => []

def ValueSpec.allows (v : ValueSpec) (value : String) : Bool :=
  match v.kind with
  | .text => true
  | .path => value != ""
  | .choice choices => choices.any (·.name == value)

/-- An option, or a flag if it takes no value. Only flags have a short form. -/
structure OptionSpec where
  long : String
  short : Option Char := none
  help : String := ""
  value : Option ValueSpec := none
  required : Bool := false
  /-- The value without the option, where help shows one. -/
  initially : Option String := none
  deriving Repr, Inhabited

inductive OperandSpec where
  | none
  | one (value : ValueSpec) (help : String)
  /-- All that stands after `--`, at least one. -/
  | afterDashes (value : ValueSpec)
  deriving Repr, Inhabited

structure CommandSpec where
  name : String
  help : String
  options : List OptionSpec := []
  operand : OperandSpec := .none
  deriving Repr, Inhabited

/-- A program with commands. Its own options may stand before and after the command. -/
structure ProgramSpec where
  name : String
  version : String
  help : String
  options : List OptionSpec
  commands : List CommandSpec
  deriving Repr, Inhabited

def helpFlag : OptionSpec := { long := "help", short := 'h' }

/-- The flag that asks for the version, before a command only. -/
def versionFlag : OptionSpec := { long := "version", short := 'V', help := "Print version" }

def helpCommand : CommandSpec where
  name := "help"
  help := "Print this message or the help of the given subcommand(s)"

/-- `--color`. It changes nothing in what is printed. -/
def colourOption : OptionSpec where
  long := "color"
  help := "Control color output"
  initially := some "auto"
  value := some
    { name := "COLOR"
      kind := .choice
        [⟨"auto","Auto-detect based on terminal and \x60NO_COLOR\x60 env"⟩,
          ⟨"always","Always use colors"⟩,⟨"never","Never use colors"⟩] }

def verboseFlag : OptionSpec where
  long := "verbose"
  short := 'v'
  help := "Log at debug level (overridden by RUST_LOG)"

def configOption (help : String) : OptionSpec :=
  { long := "config", help, value := some { name := "CONFIG", kind := .path } }

def runCommand : CommandSpec where
  name := "run"
  help := "Run a completion suite (YAML or JSON)"
  options :=
    [{ long := "suite", value := some { name := "SUITE", kind := .path }, required := true },
      configOption "Timing configuration file; replaces the suite's config block",
      { long := "json", help := "Print the suite report as JSON on stdout" }]

def probeCommand : CommandSpec where
  name := "probe"
  help := "Probe a single input and print what the shell completed"
  options :=
    [{ long := "prompt", help := "Prompt regex; \x7bcontext\x7d is replaced by --context"
       value := some { name := "PROMPT" }, required := true },
      { long := "context", value := some { name := "CONTEXT" } },
      { long := "input", help := "Text typed before TAB", value := some { name := "INPUT" }
        initially := some "" },
      { long := "lines", help := "Print candidate lines instead of tokens" },
      { long := "lossy", help := "Replace invalid UTF-8 instead of failing" },
      configOption "",
      { long := "json" }]
  operand := .afterDashes { name := "COMMAND" }

inductive ScriptShell where
  | bash
  | elvish
  | fish
  | powershell
  | zsh
  deriving DecidableEq, Repr, Inhabited

def ScriptShell.all : List ScriptShell := [bash,elvish,fish,powershell,zsh]

def ScriptShell.name : ScriptShell → String
  | bash => "bash"
  | elvish => "elvish"
  | fish => "fish"
  | powershell => "powershell"
  | zsh => "zsh"

def completionsCommand : CommandSpec where
  name := "completions"
  help := "Generate shell completions for bash, zsh, or fish"
  operand := .one
    { name := "SHELL", kind := .choice (ScriptShell.all.map fun s => { name := s.name }) }
    "Shell to generate completions for"

def program : ProgramSpec where
  name := "tabprobe"
  version := "0.1.0"
  help := "Verify interactive tab completion of a shell over a PTY"
  options := [colourOption,verboseFlag]
  commands := [runCommand,probeCommand,completionsCommand]

end TabCompletion.CommandLine
