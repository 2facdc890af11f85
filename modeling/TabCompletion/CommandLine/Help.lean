import TabCompletion.CommandLine.Arguments

/-!
# Help

The help of the program and of its commands, from the specification. The short form has a line for
each option; the long form has a paragraph, with the meaning of each value.
-/
namespace TabCompletion.CommandLine

def spaces (n : Nat) : String := String.ofList (List.replicate n ' ')

def stack (lines : List String) : String := "\n".intercalate lines

structure HelpEntry where
  short : Option Char := none
  head : String
  help : String := ""
  choices : List Choice := []
  initially : Option String := none
  operand : Bool := false
  deriving Repr, Inhabited

namespace HelpEntry

def ofOption (o : OptionSpec) : HelpEntry where
  short := o.short
  head := "--" ++ o.long ++
    (match o.value with
      | some v => " <" ++ v.name ++ ">"
      | none => "")
  help := o.help
  choices := (o.value.map ValueSpec.choices).getD []
  initially := o.initially

def ofOperand : OperandSpec → List HelpEntry
  | .none => []
  | .one v help =>
    [{ head := "<" ++ v.name ++ ">", help, choices := v.choices, operand := true }]
  | .afterDashes v => [{ head := "<" ++ v.name ++ ">...", operand := true }]

def start (e : HelpEntry) : String :=
  "  " ++
  (if e.operand then ""
    else
      match e.short with
      | some c => "-" ++ c.toString ++ ", "
      | none => spaces 4) ++ e.head

def explainsChoices (e : HelpEntry) : Bool := e.choices.any (·.help.isSome)

def remarks (e : HelpEntry) (long : Bool) : List String :=
  (e.initially.map fun v => "[default: " ++ v ++ "]").toList ++
  (if e.choices.isEmpty || (long && e.explainsChoices) then []
    else ["[possible values: " ++ ", ".intercalate (e.choices.map (·.name)) ++ "]"])

/-- An entry in one line. The help begins in the same column for all entries. -/
def line (width : Nat) (e : HelpEntry) : String :=
  e.start ++ spaces (width + 2 - e.head.length) ++
    " ".intercalate ([e.help].filter (· != "") ++ e.remarks false)

def choiceLines (e : HelpEntry) : List String :=
  let width := (e.choices.map (·.name.length)).foldl max 0
  e.choices.map fun c =>
    spaces 10 ++ "- " ++ c.name ++
      (match c.help with
        | some help => ": " ++ spaces (width - c.name.length) ++ help
        | none => "")

def paragraph (e : HelpEntry) : String :=
  let texts := [e.help].filter (· != "") ++
    (if (e.remarks true).isEmpty then [] else [" ".intercalate (e.remarks true)])
  stack ([e.start,spaces 10 ++ ("\n" ++ spaces 10 ++ "\n" ++ spaces 10).intercalate texts] ++
    (if e.explainsChoices then ["",spaces 10 ++ "Possible values:"] ++ e.choiceLines else []))

end HelpEntry

def helpSection (title : String) (long : Bool) (entries : List HelpEntry) : List String :=
  if entries.isEmpty then []
  else
    let width := (entries.map (·.head.length)).foldl max 0
    [title ++ ":\n" ++
      (if long then "\n\n".intercalate (entries.map HelpEntry.paragraph)
        else stack (entries.map (HelpEntry.line width)))]

def commandSection (commands : List CommandSpec) : String :=
  let width := (commands.map (·.name.length)).foldl max 0
  stack ("Commands:" :: commands.map fun c =>
    "  " ++ c.name ++ spaces (width - c.name.length + 2) ++ c.help)

/-- The options of a command among those of the program: by their place, then by name. -/
def mergeOptions (own shared : List OptionSpec) : List OptionSpec :=
  let key (o : OptionSpec) : String := (o.short.map Char.toString).getD o.long
  ((own.zipIdx ++ shared.zipIdx).mergeSort fun (a, i) (b, j) =>
    i < j || (i == j && decide (key a ≤ key b))).map (·.1)

def helpEntry (long : Bool) : OptionSpec :=
  { helpFlag with
    help := if long then "Print help (see a summary with '-h')"
      else "Print help (see more with '--help')" }

def operandUsage : OperandSpec → String
  | .none => ""
  | .one v _ => " <" ++ v.name ++ ">"
  | .afterDashes v => " -- <" ++ v.name ++ ">..."

def commandUsage (p : ProgramSpec) (c : CommandSpec) : String :=
  let required := c.options.filter (·.required)
  "Usage: " ++ p.name ++ " " ++ c.name ++ " [OPTIONS]" ++
    String.join (required.map fun o => " " ++ (HelpEntry.ofOption o).head) ++ operandUsage c.operand

def programUsage (p : ProgramSpec) : String := "Usage: " ++ p.name ++ " [OPTIONS] <COMMAND>"

def helpText (parts : List String) : String := "\n\n".intercalate parts ++ "\n"

def programHelp (p : ProgramSpec) (long : Bool) : String :=
  let options := p.options ++ [helpEntry long,versionFlag]
  helpText ([p.help,programUsage p,commandSection (p.commands ++ [helpCommand])] ++
    helpSection "Options" long (options.map .ofOption))

def commandHelp (p : ProgramSpec) (c : CommandSpec) (long : Bool) : String :=
  let options := mergeOptions c.options p.options ++ [helpEntry long]
  helpText ([c.help,commandUsage p c] ++ helpSection "Arguments" long (HelpEntry.ofOperand c.operand) ++
    helpSection "Options" long (options.map .ofOption))

def helpHelp (p : ProgramSpec) : String :=
  helpText [helpCommand.help,"Usage: " ++ p.name ++ " help [COMMAND]...",
    "Arguments:\n  [COMMAND]...  Print help for the subcommand(s)"]

def help (p : ProgramSpec) (command : Option String) (long : Bool) : String :=
  match command with
  | none => programHelp p long
  | some name =>
    match p.commands.find? (·.name == name) with
    | some c => commandHelp p c long
    | none => helpHelp p

end TabCompletion.CommandLine
