import TabCompletion.CommandLine.Help

/-!
# Completion scripts

Scripts that make a shell complete the command line of the program. A `Place` is a point of the
command line at which the next argument is completed: after the program, after one of its commands,
or after `help`. Each script lists what may come at each place.
-/
namespace TabCompletion.CommandLine

/-- A point of the command line: the words before it, and what may come. -/
structure Place where
  words : List String
  options : List OptionSpec := []
  commands : List CommandSpec := []
  operand : OperandSpec := .none
  deriving Repr, Inhabited

def optionsOf (p : ProgramSpec) (c : CommandSpec) : List OptionSpec :=
  mergeOptions c.options p.options ++ [helpEntry false]

def programPlace (p : ProgramSpec) : Place where
  words := [p.name]
  options := p.options ++ [helpEntry false,versionFlag]
  commands := p.commands ++ [helpCommand]

def commandPlaces (p : ProgramSpec) : List Place :=
  p.commands.map fun c =>
    { words := [p.name,c.name], options := optionsOf p c, operand := c.operand }

def helpPlaces (p : ProgramSpec) : List Place :=
  let commands := p.commands ++ [helpCommand]
  { words := [p.name,helpCommand.name], commands } ::
    commands.map fun c => { words := [p.name,helpCommand.name,c.name] }

def places (p : ProgramSpec) : List Place := programPlace p :: commandPlaces p ++ helpPlaces p

namespace Place

def name (separator : String) (place : Place) : String := separator.intercalate place.words

def operandChoices (place : Place) : List Choice :=
  match place.operand with
  | .one v _ => v.choices
  | _ => []

end Place

def forms (o : OptionSpec) : List String :=
  (o.short.map fun c => "-" ++ c.toString).toList ++ ["--" ++ o.long]

/-- A text in single quotes, where a quote is written in a given way. -/
def singleQuoted (quote : String) (s : String) : String :=
  "'" ++ String.join (s.toList.map fun c => if c = '\'' then quote else c.toString) ++ "'"

def bashValue (o : OptionSpec) : List String :=
  match o.value with
  | none => []
  | some v =>
    let words := match v.choices with
      | [] => "compgen -f \"$\x7bcur\x7d\""
      | choices => "compgen -W \"" ++ " ".intercalate (choices.map (·.name)) ++ "\" -- \"$\x7bcur\x7d\""
    ["                --" ++ o.long ++ ")","                    COMPREPLY=($(" ++ words ++ "))",
      "                    return 0","                    ;;"]

def bashPlace (place : Place) : List String :=
  let words := place.options.flatMap forms ++ place.commands.map (·.name) ++
    place.operandChoices.map (·.name)
  let all := "COMPREPLY=( $(compgen -W \"$\x7bopts\x7d\" -- \"$\x7bcur\x7d\") )"
  ["        " ++ place.name "__" ++ ")","            opts=\"" ++ " ".intercalate words ++ "\"",
    "            if [[ $\x7bcur\x7d == -* || $\x7bCOMP_CWORD\x7d -eq " ++ toString place.words.length ++ " ]] ; then",
    "                " ++ all,"                return 0","            fi",
    "            case \"$\x7bprev\x7d\" in"] ++
  place.options.flatMap bashValue ++
  ["                *)","                    COMPREPLY=()","                    ;;",
    "            esac","            " ++ all,"            return 0","            ;;"]

def bashStep (place : Place) : List String :=
  match place.words.reverse with
  | last :: before@(_ :: _) =>
    ["            " ++ "__".intercalate before.reverse ++ "," ++ last ++ ")",
      "                cmd=\"" ++ place.name "__" ++ "\"","                ;;"]
  | _ => []

def bashScript (p : ProgramSpec) : List String :=
  ["_" ++ p.name ++ "() \x7b","    local i cur prev opts cmd","    COMPREPLY=()",
    "    cur=\"$\x7bCOMP_WORDS[COMP_CWORD]\x7d\"","    prev=\"$\x7bCOMP_WORDS[COMP_CWORD-1]\x7d\"",
    "    cmd=\"\"","    opts=\"\"","","    for i in $\x7bCOMP_WORDS[@]\x7d","    do",
    "        case \"$\x7bcmd\x7d,$\x7bi\x7d\" in","            \",$1\")",
    "                cmd=\"" ++ p.name ++ "\"","                ;;"] ++
  (places p).flatMap bashStep ++
  ["            *)","                ;;","        esac","    done","",
    "    case \"$\x7bcmd\x7d\" in"] ++
  (places p).flatMap bashPlace ++
  ["    esac","\x7d","",
    "if [[ \"$\x7bBASH_VERSINFO[0]\x7d\" -eq 4 && \"$\x7bBASH_VERSINFO[1]\x7d\" -ge 4 || " ++
      "\"$\x7bBASH_VERSINFO[0]\x7d\" -gt 4 ]]; then",
    "    complete -F _" ++ p.name ++ " -o nosort -o bashdefault -o default " ++ p.name,"else",
    "    complete -F _" ++ p.name ++ " -o bashdefault -o default " ++ p.name,"fi"]

def zshQuoted : String → String := singleQuoted "'\\''"

def zshChoices (choices : List Choice) : String :=
  let one (c : Choice) : String :=
    match c.help with
    | some help => c.name ++ "\\:\"" ++ help ++ "\""
    | none => c.name
  if choices.any (·.help.isSome) then "((" ++ stack (choices.map one) ++ "))"
  else "(" ++ " ".intercalate (choices.map one) ++ ")"

def zshAction (v : ValueSpec) : String :=
  match v.kind with
  | .text => "_default"
  | .path => "_files"
  | .choice choices => zshChoices choices

def zshOption (o : OptionSpec) : List String :=
  let value := match o.value with
    | some v => ":" ++ v.name ++ ":" ++ zshAction v
    | none => ""
  (forms o).map fun form =>
    zshQuoted (form ++ (if o.value.isSome then "=" else "") ++ "[" ++ o.help ++ "]" ++ value) ++ " \\"

def zshOperand : OperandSpec → List String
  | .none => []
  | .one v help => [zshQuoted (":" ++ v.name.toLower ++ " -- " ++ help ++ ":" ++ zshAction v) ++ " \\"]
  | .afterDashes v => [zshQuoted ("*::" ++ v.name.toLower ++ ":" ++ zshAction v) ++ " \\"]

def zshPlace (place : Place) : List String :=
  ["_arguments \"$\x7b_arguments_options[@]\x7d\" : \\"] ++ place.options.flatMap zshOption ++
  zshOperand place.operand ++
  (if place.commands.isEmpty then []
    else ["\":: :_" ++ place.name "__" ++ "_commands\" \\","\"*::: :->" ++ place.name "-" ++ "\" \\"]) ++
  ["&& ret=0"]

def zshBranch (name : String) (after : List (String × List String)) : List String :=
  ["    case $state in","    (" ++ name ++ ")","        words=($line[1] \"$\x7bwords[@]\x7d\")",
    "        (( CURRENT += 1 ))",
    "        curcontext=\"$\x7bcurcontext%:*:*\x7d:" ++ name ++ "-command-$line[1]:\"",
    "        case $line[1] in"] ++
  after.flatMap (fun (word, lines) => ["            (" ++ word ++ ")"] ++ lines ++ [";;"]) ++
  ["        esac","    ;;","esac"]

def zshCommands (place : Place) : List String :=
  let function := "_" ++ place.name "__" ++ "_commands"
  ["(( $+functions[" ++ function ++ "] )) ||",function ++ "() \x7b",
    "    local commands; commands=("] ++
  (place.commands.map fun c => zshQuoted (c.name ++ ":" ++ c.help) ++ " \\") ++
  ["    )","    _describe -t commands " ++ zshQuoted (place.name " " ++ " commands") ++
    " commands \"$@\"","\x7d"]

def zshScript (p : ProgramSpec) : List String :=
  let last (place : Place) : String := (place.words.getLast?).getD ""
  let branches := (commandPlaces p).map fun place => (last place, zshPlace place)
  let helpBranch := match helpPlaces p with
    | [] => []
    | first :: rest =>
      [(last first, zshPlace first ++
        zshBranch (first.name "-") (rest.map fun place => (last place, zshPlace place)))]
  ["#compdef " ++ p.name,"","autoload -U is-at-least","","_" ++ p.name ++ "() \x7b",
    "    typeset -A opt_args","    typeset -a _arguments_options","    local ret=1","",
    "    if is-at-least 5.2; then","        _arguments_options=(-s -S -C)","    else",
    "        _arguments_options=(-s -C)","    fi","",
    "    local context curcontext=\"$curcontext\" state line"] ++
  zshPlace (programPlace p) ++ zshBranch p.name (branches ++ helpBranch) ++ ["\x7d",""] ++
  (places p).flatMap zshCommands ++
  ["","if [ \"$funcstack[1]\" = \"_" ++ p.name ++ "\" ]; then","    _" ++ p.name ++ " \"$@\"",
    "else","    compdef _" ++ p.name ++ " " ++ p.name,"fi"]

def fishQuoted : String → String := singleQuoted "\\'"

def fishOption (start : String) (o : OptionSpec) : String :=
  let one (c : Choice) : String :=
    match c.help with
    | some help => c.name ++ "\\t'" ++ help ++ "'"
    | none => c.name
  start ++ (match o.short with | some c => " -s " ++ c.toString | none => "") ++ " -l " ++ o.long ++
    (if o.help.isEmpty then "" else " -d " ++ fishQuoted o.help) ++
    (match o.value with
      | none => ""
      | some v =>
        match v.choices with
        | [] => if v.kind matches .path then " -r -F" else " -r"
        | choices => " -r -f -a \"" ++ stack (choices.map one) ++ "\"")

def fishPlace (p : ProgramSpec) (condition : String) (place : Place) : List String :=
  let start := "complete -c " ++ p.name ++ " -n \"" ++ condition ++ "\""
  place.options.map (fishOption start) ++
  place.commands.map fun c => start ++ " -f -a \"" ++ c.name ++ "\" -d " ++ fishQuoted c.help

def fishScript (p : ProgramSpec) : List String :=
  let first := programPlace p
  let optspec (o : OptionSpec) : String :=
    (match o.short with | some c => c.toString ++ "/" | none => "") ++ o.long ++
      (if o.value.isSome then "=" else "")
  let needs := "__fish_" ++ p.name ++ "_needs_command"
  let inside := "__fish_" ++ p.name ++ "_using_subcommand"
  ["# Print an optspec for argparse to handle cmd's options that are independent of any subcommand.",
    "function __fish_" ++ p.name ++ "_global_optspecs",
    "\tstring join \\n " ++ " ".intercalate (first.options.map optspec),"end","",
    "function " ++ needs,"\t# Figure out if the current invocation already has a command.",
    "\tset -l cmd (commandline -opc)","\tset -e cmd[1]",
    "\targparse -s (__fish_" ++ p.name ++ "_global_optspecs) -- $cmd 2>/dev/null","\tor return",
    "\tif set -q argv[1]",
    "\t\t# Also print the command, so this can be used to figure out what it is.",
    "\t\techo $argv[1]","\t\treturn 1","\tend","\treturn 0","end","","function " ++ inside,
    "\tset -l cmd (" ++ needs ++ ")","\ttest -z \"$cmd\"","\tand return 1",
    "\tcontains -- $cmd[1] $argv","end",""] ++
  fishPlace p needs first ++
  (commandPlaces p ++ (helpPlaces p).take 1).flatMap fun place =>
    fishPlace p (inside ++ " " ++ " ".intercalate (place.words.drop 1)) place

def elvishQuoted : String → String := singleQuoted "''"

def elvishPlace (place : Place) : List String :=
  let candidate (text help : String) : String :=
    "            cand " ++ text ++ " " ++ elvishQuoted (if help.isEmpty then text else help)
  ["        &" ++ elvishQuoted (place.name ";") ++ "= \x7b"] ++
  place.options.flatMap (fun o => (forms o).map fun form => candidate form o.help) ++
  place.commands.map (fun c => candidate c.name c.help) ++ ["        \x7d"]

def elvishScript (p : ProgramSpec) : List String :=
  ["","use builtin;","use str;","",
    "set edit:completion:arg-completer[" ++ p.name ++ "] = \x7b|@words|","    fn spaces \x7b|n|",
    "        builtin:repeat $n ' ' | str:join ''","    \x7d","    fn cand \x7b|text desc|",
    "        edit:complex-candidate $text " ++
      "&display=$text' '(spaces (- 14 (wcswidth $text)))$desc","    \x7d",
    "    var command = " ++ elvishQuoted p.name,"    for word $words[1..-1] \x7b",
    "        if (str:has-prefix $word '-') \x7b","            break","        \x7d",
    "        set command = $command';'$word","    \x7d","    var completions = ["] ++
  (places p).flatMap elvishPlace ++ ["    ]","    $completions[$command]","\x7d"]

def powershellQuoted : String → String := singleQuoted "''"

def powershellPlace (place : Place) : List String :=
  let result (text kind help : String) : String :=
    "            [CompletionResult]::new(" ++ powershellQuoted text ++ ", " ++ powershellQuoted text ++
      ", [CompletionResultType]::" ++ kind ++ ", " ++
      powershellQuoted (if help.isEmpty then text else help) ++ ")"
  ["        " ++ powershellQuoted (place.name ";") ++ " \x7b"] ++
  place.options.flatMap (fun o => (forms o).map fun form => result form "ParameterName" o.help) ++
  place.commands.map (fun c => result c.name "ParameterValue" c.help) ++
  ["            break","        \x7d"]

def powershellScript (p : ProgramSpec) : List String :=
  ["","using namespace System.Management.Automation",
    "using namespace System.Management.Automation.Language","",
    "Register-ArgumentCompleter -Native -CommandName " ++ powershellQuoted p.name ++
      " -ScriptBlock \x7b",
    "    param($wordToComplete, $commandAst, $cursorPosition)","",
    "    $commandElements = $commandAst.CommandElements","    $command = @(",
    "        " ++ powershellQuoted p.name,
    "        for ($i = 1; $i -lt $commandElements.Count; $i++) \x7b",
    "            $element = $commandElements[$i]",
    "            if ($element -isnot [StringConstantExpressionAst] -or",
    "                $element.StringConstantType -ne [StringConstantType]::BareWord -or",
    "                $element.Value.StartsWith('-') -or",
    "                $element.Value -eq $wordToComplete) \x7b","                break","        \x7d",
    "        $element.Value","    \x7d) -join ';'","",
    "    $completions = @(switch ($command) \x7b"] ++
  (places p).flatMap powershellPlace ++
  ["    \x7d)","",
    "    $completions.Where\x7b $_.CompletionText -like \"$wordToComplete*\" \x7d |",
    "        Sort-Object -Property ListItemText","\x7d"]

def completionScript (p : ProgramSpec) (shell : ScriptShell) : String :=
  String.join <| (match shell with
    | .bash => bashScript p
    | .elvish => elvishScript p
    | .fish => fishScript p
    | .powershell => powershellScript p
    | .zsh => zshScript p).map (· ++ "\n")

end TabCompletion.CommandLine
