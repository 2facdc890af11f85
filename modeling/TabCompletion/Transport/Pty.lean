import TabCompletion.Machine
import TabCompletion.Shell
import TabCompletion.Terminal.Console
import TabCompletion.Transport.Polled

/-!
# Pseudo-terminals

A shell on a pseudo-terminal of a machine: its console is the line, and what is sent are keys. A shell
is stopped by a signal to all its processes, and by force if it does not end in time.
-/
namespace TabCompletion

abbrev Pty := Polled Console

def Console.fetchLimit : Nat := 4096

/-- The console as a line: it ends when the process has ended and its output is fetched. -/
instance : Line Console where
  ask c :=
    let (bytes, terminal) := c.terminal.fetch Console.fetchLimit
    if !bytes.isEmpty then (.data bytes, { c with terminal })
    else if c.ending?.isSome then (.closed, c)
    else (.idle, c)
  time c := (c.now, c)
  pause time c := c.advance time

namespace Pty

def onConsole (f : Console → Console) (p : Pty) : Pty := { p with line := f p.line }

/-- Types keys. A terminal takes them also when its shell has ended. -/
def send (bytes : Bytes) (p : Pty) : Pty := p.onConsole (·.typeKeys bytes)

def patience : Nat := 10000000

def neverQuiet : HarnessError := .plain .internal "terminal never became quiet"

def settled (p : Pty) : Option (HarnessResult Bytes × Pty) → HarnessResult Bytes × Pty
  | some outcome => outcome
  | none => (.error neverQuiet, p)

/-- The exit code of a process; one that was killed counts as unsuccessful. -/
def exitCode (e : Ending) : Nat := e.code?.getD 1

def exitPoll : Nat := 10

def awaitExit (deadline : Nat) : Nat → Pty → Option Nat × Pty
  | 0, p => (none, p)
  | rounds + 1, p =>
    match p.line.ending? with
    | some e => (some (exitCode e), p)
    | none =>
      if deadline ≤ p.line.now then (none, p)
      else awaitExit deadline rounds (p.onConsole (·.advance exitPoll))

def waitForExit (timeout : Nat) (p : Pty) : Option Nat × Pty :=
  awaitExit (p.line.now + timeout) (timeout / exitPoll + 2) p

/-- How long a shell may take to end that is stopped by force, in milliseconds. -/
def killWait : Nat := 200

/-- Ends the shell, by force if it does not end in time: its exit code. -/
def terminate (grace : Nat) (p : Pty) : Option Nat × Pty :=
  match waitForExit grace (p.onConsole (·.signal .terminate)) with
  | (some code, p) => (some code, p)
  | (none, p) => waitForExit killWait (p.onConsole (·.signal .kill))

instance : Transport Pty where
  send bytes p := (.ok (), p.send bytes)
  readUntilQuiet quiet p := settled p (p.readUntilQuiet patience quiet)
  readUntilMatch pattern timeout p := settled p (p.readUntilMatch patience pattern timeout)
  shutdown grace p := (.ok (), (terminate grace p).2)

structure Launch where
  command : String
  args : List String := []
  cwd : Option String := none
  env : List (String × String) := []
  rows : Nat
  columns : Nat
  interval : Nat

def spawnError (source : String) : HarnessError := .io "failed to spawn shell" source

/-- The directory that a shell starts in: the one that is asked for, if there is one, or the home
    directory. -/
def startDirectory (m : Machine) (cwd : Option String) : Location :=
  match cwd.filter fun path => (m.directoryFault? path).isNone with
  | some path => m.place path
  | none => m.place ((m.lookup "HOME").getD "/")

def startVariables (m : Machine) (env : List (String × String)) : List (String × String) :=
  m.environment.filter (fun (n, _) => !env.any (·.1 == n)) ++ env

def spawn (m : Machine) (l : Launch) : HarnessResult Pty :=
  let directory := startDirectory m l.cwd
  let environment := startVariables m l.env
  match m.programs.locate? directory ((environment.lookup "PATH").getD "") l.command with
  | none => .error (spawnError ("no program " ++ l.command))
  | some p =>
    let process := p ⟨l.command,directory,environment⟩ l.args
    let mode : TerminalMode := { rows := l.rows, columns := l.columns }
    .ok { line := .start process mode m.files m.clock, interval := l.interval }

def releaseGrace : Nat := 100

def release (p : Pty) (m : Machine) : Machine :=
  let last := (terminate releaseGrace p).2.line
  { m with files := last.files, clock := last.now }

end Pty
end TabCompletion
