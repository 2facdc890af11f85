import TabCompletion.Programs.Devices
import TabCompletion.Programs.Housekeeping
import TabCompletion.Script.Run

/-!
# The programs of a system

The programs that can be started by name: the shell, small tools, and the fixture shell.
-/
namespace TabCompletion.Programs
open Process

def plain (f : List String → Mortal Nat) : Program := fun _ args => ending (f args)

def placed (f : Surroundings → List String → Mortal Nat) : Program := fun around args =>
  ending (f around args)

def test (name : String) : Program := placed fun around args => do
  let terminal ← configure id
  match Script.Condition.evaluateCall ⟨← files,around.directory,terminal.isSome⟩ name args with
  | .ok true => return 0
  | .ok false => return 1
  | .error f =>
    complain (name ++ ": " ++ f.message)
    return 2

def pwd : Program := placed fun around _ => do
  say (Location.path around.directory ++ "\n")
  return 0

def tool? : Programs
  | "true" => some (plain fun _ => return 0)
  | "false" => some (plain fun _ => return 1)
  | "[" => some (test "[")
  | "basename" => some (plain basename)
  | "cat" => some (placed cat)
  | "cp" => some (placed (copy "cp" false))
  | "dd" => some (placed dd)
  | "echo" => some (plain echo)
  | "grep" => some (placed grep)
  | "head" => some (placed head)
  | "ls" => some (placed ls)
  | "mkdir" => some (placed mkdir)
  | "mv" => some (placed (copy "mv" true))
  | "printenv" => some (placed printenv)
  | "printf" => some (plain printf)
  | "pwd" => some pwd
  | "rm" => some (placed rm)
  | "rmdir" => some (placed rmdir)
  | "seq" => some (plain seq)
  | "sleep" => some (plain sleep)
  | "stty" => some (plain stty)
  | "tabprobe-fake-shell" => some (plain fixtureShell)
  | "tee" => some (placed tee)
  | "test" => some (test "test")
  | "touch" => some (placed touch)
  | "tr" => some (plain tr)
  | "tty" => some (plain fun _ => tty)
  | "wc" => some (placed wc)
  | "yes" => some (plain yes)
  | _ => none

def env (programs : Programs) : Program := fun around args =>
  let fresh := args.head? == some "-i" || args.head? == some "-"
  let args := if fresh then args.drop 1 else args
  let settings := args.takeWhile (·.toList.contains '=')
  let environment := settings.foldl (fun vs setting =>
    let (name, value) := Script.Builtin.splitSetting setting
    vs.filter (·.1 != name) ++ [(name, value.getD "")]) (if fresh then [] else around.environment)
  match args.drop settings.length with
  | [] => ending (printenv { around with environment } [])
  | name :: rest =>
    match programs (lastPart name) with
    | some p => p { around with name, environment } rest
    | none =>
      Process.ending do
        complain ("env: '" ++ name ++ "': No such file or directory")
        return 127

/-- All programs, where a shell may start shells to a depth. -/
def find? : Nat → Programs
  | 0, name => tool? name
  | depth + 1, name =>
    match name with
    | "sh" => some (Script.shell (find? depth))
    | "dash" => some (Script.shell (find? depth))
    | "env" => some (env (find? depth))
    | _ => tool? name

def nesting : Nat := 100

def all : Programs := find? nesting

end TabCompletion.Programs
