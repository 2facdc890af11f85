import TabCompletion.Programs.Basic

/-!
# Programs that change files

Programs that make, copy and remove files and directories, and show the environment.
-/
namespace TabCompletion.Programs
open Process

def splitOptions (args : List String) : List Char × List String :=
  let isOption (a : String) : Bool := a.length > 1 && a.toList.head? = some '-'
  ((args.filter isOption).flatMap (·.toList.drop 1), args.filter fun a => !isOption a)

def rm (around : Surroundings) (args : List String) : Mortal Nat := do
  let (options, names) := splitOptions args
  let force := options.contains 'f'
  let recursive := options.contains 'r' || options.contains 'R'
  if names.isEmpty then
    if force then return 0 else misuse "rm" "missing operand"
  else
    forEach names fun name => do
      let place := Location.ofPath around.directory name
      let tree ← files
      let refuse (e : FileFault) : Mortal Bool := do
        complain ("rm: cannot remove '" ++ name ++ "': " ++ e.reason)
        return false
      match tree.wayFault? place with
      | some e => if force then return true else refuse e
      | none =>
        if tree.isDirectory place then
          if recursive then change (·.removeTree place); return true
          else refuse .directory
        else if tree.has place then change (·.drop place); return true
        else if force then return true
        else refuse .missing

def touch (around : Surroundings) (args : List String) : Mortal Nat := do
  let (_, names) := splitOptions args
  if names.isEmpty then misuse "touch" "missing file operand"
  else
    forEach names fun name => do
      let place := Location.ofPath around.directory name
      let tree ← files
      if tree.has place then return true
      match tree.writeFault? place with
      | some e => complain ("touch: cannot touch '" ++ name ++ "': " ++ e.reason); return false
      | none => change (·.put place []); return true

def mkdir (around : Surroundings) (args : List String) : Mortal Nat := do
  let (options, names) := splitOptions args
  if names.isEmpty then misuse "mkdir" "missing operand"
  else
    forEach names fun name => do
      let place := Location.ofPath around.directory name
      let tree ← files
      let refuse (e : FileFault) : Mortal Bool := do
        complain ("mkdir: cannot create directory '" ++ name ++ "': " ++ e.reason)
        return false
      if options.contains 'p' then
        if (tree.find? place).isSome then refuse .present
        else change (·.makeWay place); return true
      else
        match tree.makeDirectory place with
        | .ok _ => change fun f => (f.makeDirectory place).toOption.getD f; return true
        | .error e => refuse e

def rmdir (around : Surroundings) (args : List String) : Mortal Nat := do
  let (_, names) := splitOptions args
  if names.isEmpty then misuse "rmdir" "missing operand"
  else
    forEach names fun name => do
      let place := Location.ofPath around.directory name
      match (← files).removeDirectory place with
      | .ok _ => change fun f => (f.removeDirectory place).toOption.getD f; return true
      | .error e => complain ("rmdir: failed to remove '" ++ name ++ "': " ++ e.reason); return false

def ls (around : Surroundings) (args : List String) : Mortal Nat := do
  let (options, names) := splitOptions args
  let hidden (n : String) : Bool := n.toList.head? = some '.' && !options.contains 'a' && !options.contains 'A'
  let failures ← forEach (if names.isEmpty then ["."] else names) fun name => do
    let place := Location.ofPath around.directory name
    let tree ← files
    if tree.isDirectory place then
      ((tree.names place).filter (!hidden ·)).forM fun n => say (n ++ "\n")
      return true
    else if tree.has place then say (name ++ "\n"); return true
    else
      complain ("ls: cannot access '" ++ name ++ "': No such file or directory")
      return false
  return 2 * failures

/-- `cp` and `mv`: copies a file, and removes the first if told so. -/
def copy (program : String) (moving : Bool) (around : Surroundings) (args : List String) :
    Mortal Nat := do
  match (splitOptions args).2 with
  | [old,new] =>
    let tree ← files
    let origin := Location.ofPath around.directory old
    let target := Location.ofPath around.directory new
    let target := if tree.isDirectory target then target ++ (origin.getLast?).toList else target
    match tree.find? origin with
    | none =>
      complain (program ++ ": cannot stat '" ++ old ++ "': No such file or directory")
      return 1
    | some bytes =>
      match tree.writeFault? target with
      | some e =>
        complain (program ++ ": cannot create regular file '" ++ new ++ "': " ++ e.reason)
        return 1
      | none =>
        if moving then change (·.drop origin)
        change (·.put target bytes)
        return 0
  | [] => misuse program "missing file operand"
  | [one] => misuse program ("missing destination file operand after '" ++ one ++ "'")
  | _ => misuse program "too many operands"

def printenv (around : Surroundings) (args : List String) : Mortal Nat := do
  if args.isEmpty then
    around.environment.forM fun (n, v) => say (n ++ "=" ++ v ++ "\n")
    return 0
  else
    forEach args fun name => do
      match around.environment.lookup name with
      | some v => say (v ++ "\n"); return true
      | none => return false

def lastPart (path : String) : String :=
  match (Location.parts path).reverse.filter (· != "") with
  | name :: _ => name
  | [] => "/"

def basename (args : List String) : Mortal Nat := do
  match args with
  | [] => misuse "basename" "missing operand"
  | [path] => say (lastPart path ++ "\n"); return 0
  | path :: ending :: _ =>
    let name := lastPart path
    let cut := name.length - ending.length
    say ((if name.length > ending.length ∧ name.toList.drop cut = ending.toList then
      String.ofList (name.toList.take cut) else name) ++ "\n")
    return 0

end TabCompletion.Programs
