import TabCompletion.Error
import TabCompletion.Identifier
import TabCompletion.Matching

/-!
# Reports

What a run found out: for each probe its status with what was observed or went wrong, for each test
case and for the suite a status folded from those below. `RunStatus.ofProbes` and
`RunStatus.combine` say which status wins. A run also tells of each step on the way
(`ProgressEvent`).
-/
namespace TabCompletion

inductive ProbeStatus where
  | passed
  /-- Classified, but not as expected. -/
  | failed
  /-- Not classified. -/
  | errored
  /-- Not run, since an earlier probe of the session errored or there was no session. -/
  | skipped
  deriving DecidableEq, Repr, Inhabited

inductive RunStatus where
  | passed
  | failed
  | errored
  deriving DecidableEq, Repr, Inhabited

namespace ProbeStatus

def name : ProbeStatus → String
  | passed => "passed"
  | failed => "failed"
  | errored => "errored"
  | skipped => "skipped"

def title : ProbeStatus → String
  | passed => "Passed"
  | failed => "Failed"
  | errored => "Errored"
  | skipped => "Skipped"

def read (n : Node) : Reading ProbeStatus :=
  n.readChoice ([passed,failed,errored,skipped].map fun s => (s.name, s))

end ProbeStatus

namespace RunStatus

def name : RunStatus → String
  | passed => "passed"
  | failed => "failed"
  | errored => "errored"

def title : RunStatus → String
  | passed => "Passed"
  | failed => "Failed"
  | errored => "Errored"

def read (n : Node) : Reading RunStatus :=
  n.readChoice ([passed,failed,errored].map fun s => (s.name, s))

/-- The status of probes: an error or a skipped probe wins over a failure, a failure over a pass. -/
def ofProbes : List ProbeStatus → RunStatus
  | [] => passed
  | .errored :: _ => errored
  | .skipped :: _ => errored
  | .passed :: rest => ofProbes rest
  | .failed :: rest => if ofProbes rest = errored then errored else failed

def max : RunStatus → RunStatus → RunStatus
  | errored, _ => errored
  | _, errored => errored
  | failed, _ => failed
  | _, failed => failed
  | passed, passed => passed

def combine (statuses : List RunStatus) : RunStatus := statuses.foldl max passed

end RunStatus

structure ProbeReport where
  input : String
  expectation : Expectation
  status : ProbeStatus
  observed : Option CompletionResult := none
  outcome : Option MatchOutcome := none
  error : Option HarnessError := none
  elapsed : Nat

/-- What became of a test case; `error` tells why a session did not start or stop. -/
structure TestReport where
  name : String
  sessionId : Option Identifier
  status : RunStatus
  probes : List ProbeReport
  error : Option HarnessError

/-- What became of a suite; `error` tells why the fixture failed. -/
structure SuiteReport where
  version : Nat
  runId : Identifier
  suite : String
  status : RunStatus
  tests : List TestReport
  error : Option HarnessError
  elapsed : Nat

def reportVersion : Nat := 1

def SuiteReport.count (r : SuiteReport) (status : ProbeStatus) : Nat :=
  (r.tests.flatMap (·.probes)).countP (·.status == status)

/-! ## Reports as values -/

def elapsedLimit : Nat := 18446744073709551615

namespace ProbeReport

def toJson (r : ProbeReport) : Json :=
  .obj <|
    [("input", .str r.input),("expectation", r.expectation.toJson),("status", .str r.status.name)] ++
    Json.optional "observed" (r.observed.map CompletionResult.toJson) ++
    Json.optional "outcome" (r.outcome.map MatchOutcome.toJson) ++
    Json.optional "error" (r.error.map HarnessError.toJson) ++ [("elapsed_ms", .nat r.elapsed)]

structure Fields where
  input : Option String := none
  expectation : Option Expectation := none
  status : Option ProbeStatus := none
  observed : Option CompletionResult := none
  outcome : Option MatchOutcome := none
  error : Option HarnessError := none
  elapsed : Option Nat := none

def record : Record Fields ProbeReport where
  names := ["input","expectation","status","observed","outcome","error","elapsed_ms"]
  closed := false
  start := {}
  put
    | "input", n, p => return { p with input := some (← n.readString) }
    | "expectation", n, p => return { p with expectation := some (← Expectation.read n) }
    | "status", n, p => return { p with status := some (← ProbeStatus.read n) }
    | "observed", n, p => return { p with observed := ← n.readOption CompletionResult.read }
    | "outcome", n, p => return { p with outcome := ← n.readOption MatchOutcome.read }
    | "error", n, p => return { p with error := ← n.readOption HarnessError.read }
    | _, n, p => return { p with elapsed := some (← n.readNat elapsedLimit) }
  finish p := do
    let input ← required "input" p.input
    let expectation ← required "expectation" p.expectation
    let status ← required "status" p.status
    return ⟨input,expectation,status,p.observed,p.outcome,p.error,
      ← required "elapsed_ms" p.elapsed⟩

end ProbeReport

namespace TestReport

def toJson (r : TestReport) : Json :=
  .obj <|
    [("name", .str r.name)] ++
    Json.optional "session_id" (r.sessionId.map fun id => .str id.display) ++
    [("status", .str r.status.name),("probes", .arr (r.probes.map ProbeReport.toJson))] ++
    Json.optional "error" (r.error.map HarnessError.toJson)

structure Fields where
  name : Option String := none
  sessionId : Option Identifier := none
  status : Option RunStatus := none
  probes : Option (List ProbeReport) := none
  error : Option HarnessError := none

def record : Record Fields TestReport where
  names := ["name","session_id","status","probes","error"]
  closed := false
  start := {}
  put
    | "name", n, p => return { p with name := some (← n.readString) }
    | "session_id", n, p => return { p with sessionId := ← n.readOption Identifier.read }
    | "status", n, p => return { p with status := some (← RunStatus.read n) }
    | "probes", n, p => return { p with probes := some (← n.readList ProbeReport.record.read) }
    | _, n, p => return { p with error := ← n.readOption HarnessError.read }
  finish p := do
    let name ← required "name" p.name
    let status ← required "status" p.status
    return ⟨name,p.sessionId,status,← required "probes" p.probes,p.error⟩

end TestReport

namespace SuiteReport

def toJson (r : SuiteReport) : Json :=
  .obj <|
    [("report_version", .nat r.version),("run_id", .str r.runId.display),("suite", .str r.suite),
      ("status", .str r.status.name),("tests", .arr (r.tests.map TestReport.toJson))] ++
    Json.optional "error" (r.error.map HarnessError.toJson) ++ [("elapsed_ms", .nat r.elapsed)]

structure Fields where
  version : Option Nat := none
  runId : Option Identifier := none
  suite : Option String := none
  status : Option RunStatus := none
  tests : Option (List TestReport) := none
  error : Option HarnessError := none
  elapsed : Option Nat := none

def versionLimit : Nat := 4294967295

def record : Record Fields SuiteReport where
  names := ["report_version","run_id","suite","status","tests","error","elapsed_ms"]
  closed := false
  start := {}
  put
    | "report_version", n, p => return { p with version := some (← n.readNat versionLimit) }
    | "run_id", n, p => return { p with runId := some (← Identifier.read n) }
    | "suite", n, p => return { p with suite := some (← n.readString) }
    | "status", n, p => return { p with status := some (← RunStatus.read n) }
    | "tests", n, p => return { p with tests := some (← n.readList TestReport.record.read) }
    | "error", n, p => return { p with error := ← n.readOption HarnessError.read }
    | _, n, p => return { p with elapsed := some (← n.readNat elapsedLimit) }
  finish p := do
    let version ← required "report_version" p.version
    let runId ← required "run_id" p.runId
    let suite ← required "suite" p.suite
    let status ← required "status" p.status
    let tests ← required "tests" p.tests
    return ⟨version,runId,suite,status,tests,p.error,← required "elapsed_ms" p.elapsed⟩

def read (n : Node) : Reading SuiteReport := record.read n

def ofJson (j : Json) : Reading SuiteReport := read (Node.ofJson j)

end SuiteReport

/-- Something that happened in a run. Test cases are counted from one. -/
inductive ProgressEvent where
  | suiteStarted (runId : Identifier) (name : String) (tests probes : Nat)
  | testStarted (index : Nat) (name : String) (probes : Nat)
  | probeCompleted (index : Nat) (input : String) (status : ProbeStatus) (elapsed : Nat)
  | testCompleted (index : Nat) (name : String) (status : RunStatus)
  | suiteCompleted (runId : Identifier) (status : RunStatus) (elapsed : Nat)
  deriving DecidableEq, Repr, Inhabited

end TabCompletion
