import TabCompletion.Files
import TabCompletion.Terminal.Mode

/-!
# Processes

A process is the tree of what it does: it prints, looks at its terminal and at the files, sleeps and
reads, and goes on with what it gets. While it sleeps or waits for input it can be interrupted by a
signal. `Process.bind` runs one process after the other, so that programs can be written in sequence.
-/
namespace TabCompletion

inductive Signal where
  | hangup
  | interrupt
  | quit
  | kill
  | user1
  | user2
  | alarm
  | terminate
  deriving DecidableEq, Repr, Inhabited

namespace Signal

def all : List Signal := [hangup,interrupt,quit,kill,user1,user2,alarm,terminate]

def number : Signal → Nat
  | hangup => 1
  | interrupt => 2
  | quit => 3
  | kill => 9
  | user1 => 10
  | user2 => 12
  | alarm => 14
  | terminate => 15

def name : Signal → String
  | hangup => "HUP"
  | interrupt => "INT"
  | quit => "QUIT"
  | kill => "KILL"
  | user1 => "USR1"
  | user2 => "USR2"
  | alarm => "ALRM"
  | terminate => "TERM"

def obituary : Signal → String
  | hangup => "Hangup"
  | interrupt => "Interrupt"
  | quit => "Quit"
  | kill => "Killed"
  | user1 => "User defined signal 1"
  | user2 => "User defined signal 2"
  | alarm => "Alarm clock"
  | terminate => "Terminated"

def ofText? (text : String) : Option Signal :=
  all.find? fun s => [s.name,"SIG" ++ s.name,toString s.number].contains text

end Signal

inductive Ending where
  | exited (code : Nat)
  /-- Ended by a signal to it and all that run with it, or to it alone. -/
  | killed (signal : Signal) (alone : Bool)
  deriving DecidableEq, Repr, Inhabited

namespace Ending

def code? : Ending → Option Nat
  | exited code => some code
  | killed _ _ => none

def status : Ending → Nat
  | exited code => code
  | killed signal _ => 128 + signal.number

end Ending

inductive Stream where
  | out
  | err
  deriving DecidableEq, Repr, Inhabited

inductive Process (α : Type) where
  | done (a : α)
  | print (stream : Stream) (bytes : Bytes) (next : Unit → Process α)
  /-- Changes the mode of the terminal that is read from. The process gets the mode before, or
      nothing if it does not read from a terminal. -/
  | configure (change : TerminalMode → TerminalMode) (next : Option TerminalMode → Process α)
  /-- Changes the files. The process gets the files before. -/
  | access (change : Files → Files) (next : Files → Process α)
  /-- Sleeps for some milliseconds, or for ever, unless a signal comes that is not ignored. -/
  | sleep (time : Option Nat) (ignored : List Signal) (next : Option Signal → Process α)
  /-- Waits for input, of which it takes at most `limit` bytes, unless a signal comes that is not
      ignored. No bytes are the end of the input. -/
  | read (limit : Nat) (ignored : List Signal) (next : Except Signal Bytes → Process α)

namespace Process

variable {α β : Type}

def bind : Process α → (α → Process β) → Process β
  | .done a, f => f a
  | .print s b k, f => .print s b fun u => (k u).bind f
  | .configure c k, f => .configure c fun m => (k m).bind f
  | .access c k, f => .access c fun x => (k x).bind f
  | .sleep t i k, f => .sleep t i fun s => (k s).bind f
  | .read n i k, f => .read n i fun r => (k r).bind f

instance : Monad Process where
  pure := .done
  bind := bind

def write (stream : Stream) (bytes : Bytes) : Process Unit := .print stream bytes .done

def say (stream : Stream) (text : String) : Process Unit := write stream (Utf8.encode text)

def files : Process Files := .access id .done

def modifyFiles (change : Files → Files) : Process Unit := .access change fun _ => .done ()

/-- A process that ends when it is killed. -/
abbrev Mortal := ExceptT Ending Process

def input (limit : Nat) : Mortal Bytes :=
  .read limit [] fun
    | .ok bytes => .done (.ok bytes)
    | .error s => .done (.error (.killed s false))

def pause (time : Option Nat) : Mortal Unit :=
  .sleep time [] fun
    | none => .done (.ok ())
    | some s => .done (.error (.killed s false))

/-- How a process ends that gives its exit code. -/
def ending (p : Mortal Nat) : Process Ending :=
  p.run.bind fun
    | .ok code => .done (.exited code)
    | .error e => .done e

end Process
end TabCompletion
