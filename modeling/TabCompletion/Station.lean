import TabCompletion.Fixture
import TabCompletion.Run
import TabCompletion.Transport.Pty

/-!
# Stations

A station is a machine at which shells are probed and suites are run. Each session has a shell of its
own on a pseudo-terminal of the machine; a shell that is no longer used is ended. Runs and sessions
get their identifiers from one series.
-/
namespace TabCompletion

/-- A machine, and the series of identifiers with the number of those that were given. -/
structure Station where
  machine : Machine
  seed : UInt64 := 0
  given : Nat := 0

namespace Station

def onMachine {α : Type} (f : StateM Machine α) : StateM Station α := fun s =>
  let (a, machine) := f.run s.machine
  (a, { s with machine })

def newId : StateM Station Identifier := fun s =>
  (.ofSeries s.seed s.given, { s with given := s.given + 1 })

def columnLimit : Nat := 65535

def launchOf (m : Machine) (shell : SessionConfig) (config : HarnessConfig) : Pty.Launch where
  command := shell.command
  args := shell.args
  cwd := shell.cwd
  env := childEnv shell m.lookup
  rows := 24
  columns := min shell.columns columnLimit
  interval := config.pollInterval

def release (p : Pty) : StateM Station Unit := onMachine (modify p.release)

/-- Opens a session: starts the shell, and waits for its first prompt. -/
def openSession (shell : SessionConfig) (config : HarnessConfig) :
    StateM Station (HarnessResult (Session × Pty)) := do
  let m := (← get).machine
  match Pty.spawn m (launchOf m shell config) with
  | .error e => return .error e
  | .ok p =>
    match Session.ofShell (← newId) shell config with
    | .error e =>
      release p
      return .error e
    | .ok session =>
      let (started, p) := session.awaitStartup.run p
      match started with
      | .ok _ => return .ok (session, p)
      | .error e =>
        release p
        return .error e

def host (suite : Suite) : Host Station Pty where
  setup := onMachine (setupFixture suite.fixture)
  teardown := onMachine (teardownFixture suite.fixture)
  openSession := openSession
  release := release
  clock := return (← get).machine.clock
  newId := newId

def runSuite (suite : Suite) (config : Option HarnessConfig) :
    StateM Station (HarnessResult SuiteReport × List ProgressEvent) := fun s =>
  let options : RunOptions := { config, lookup := s.machine.lookup }
  let (result, running) := (suite.run (host suite) options).run { host := s }
  let events := running.journal.filterMap fun
    | .progress e => some e
    | _ => none
  ((result, events), running.host)

/-- Probes a single input of a shell. The session is closed afterwards, and what its end brings does
    not matter. -/
def probeOnce (shell : SessionConfig) (config : HarnessConfig) (input : String) :
    StateM Station (HarnessResult CompletionResult) := do
  match ← openSession shell config with
  | .error e => return .error e
  | .ok (session, p) =>
    let (result, p) := (session.getCompletions input).run p
    let (_, p) := session.close.run p
    release p
    return result

end Station
end TabCompletion
