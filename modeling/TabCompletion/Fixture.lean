import TabCompletion.Error
import TabCompletion.Machine
import TabCompletion.Shell

/-!
# Fixtures

The commands of a fixture run with `sh -c`, one after the other, before and after the test cases. The
first command that does not succeed ends its phase with an error.
-/
namespace TabCompletion

namespace FixtureSpec

def notRun (phase source : String) : HarnessError := .io ("failed to run " ++ phase ++ " command") source

def unsuccessful (phase command : String) (f : Finished) : HarnessError :=
  .withDetails .io (phase ++ " command exited unsuccessfully")
    [("command", .str command),
      ("status", match f.ending.code? with
        | some n => .nat n
        | none => .null),
      ("stderr", .str (Utf8.decodeLossy f.err))]

def runCommand (phase : String) (cwd : Option String) (command : String) :
    StateM Machine (HarnessResult Unit) := fun m =>
  match cwd.bind m.directoryFault? with
  | some fault => (.error (notRun phase fault.message), m)
  | none =>
    let directory := match cwd with
      | some path => m.place path
      | none => m.directory
    match m.run "sh" directory ["-c",command] with
    | (none, m) => (.error (notRun phase FileFault.missing.message), m)
    | (some f, m) =>
      (if f.ending = .exited 0 then .ok () else .error (unsuccessful phase command f), m)

/-- Runs the commands of a phase until one fails. -/
def runPhase (phase : String) (cwd : Option String) : List String → StateM Machine (HarnessResult Unit)
  | [] => return .ok ()
  | command :: rest => do
    match ← runCommand phase cwd command with
    | .ok _ => runPhase phase cwd rest
    | .error e => return .error e

def runSetup (f : FixtureSpec) : StateM Machine (HarnessResult Unit) := runPhase "setup" f.cwd f.setup

def runTeardown (f : FixtureSpec) : StateM Machine (HarnessResult Unit) :=
  runPhase "teardown" f.cwd f.teardown

end FixtureSpec

/-- Prepares the data of a suite: nothing is done without a fixture. -/
def setupFixture (fixture : Option FixtureSpec) : StateM Machine (HarnessResult Unit) :=
  match fixture with
  | some f => f.runSetup
  | none => return .ok ()

def teardownFixture (fixture : Option FixtureSpec) : StateM Machine (HarnessResult Unit) :=
  match fixture with
  | some f => f.runTeardown
  | none => return .ok ()

end TabCompletion
