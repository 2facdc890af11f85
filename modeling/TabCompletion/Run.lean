import TabCompletion.Report
import TabCompletion.Session
import TabCompletion.Validation

/-!
# Running suites

A run prepares the fixture, runs each test case in a session of its own, and removes the fixture
again, whatever happened in between. In a test case the probes run in order: a mismatch is recorded
and the run goes on, a fatal error abandons the session and skips the rest of the test case. What a
run needs from outside (`Host`) may answer as it likes; `Running` holds the journal of what was
asked and told.
-/
namespace TabCompletion

/-- What a run needs from outside: the fixture, sessions on terminals in a state of type `σ`, a clock
    in milliseconds, and new identifiers. `ω` is the state of all that. -/
structure Host (ω σ : Type) where
  setup : StateM ω (HarnessResult Unit)
  teardown : StateM ω (HarnessResult Unit)
  openSession : SessionConfig → HarnessConfig → StateM ω (HarnessResult (Session × σ))
  /-- Takes back a terminal that is no longer used. -/
  release : σ → StateM ω Unit
  clock : StateM ω Nat
  newId : StateM ω Identifier

inductive RunEvent where
  | setup
  | teardown
  | openSession (index : Nat)
  | shutdown (index : Nat)
  | progress (e : ProgressEvent)
  deriving DecidableEq, Repr, Inhabited

structure Running (ω : Type) where
  host : ω
  journal : List RunEvent := []

abbrev RunM (ω : Type) := StateM (Running ω)

namespace Run

variable {ω σ α : Type}

def ask (question : StateM ω α) : RunM ω α := fun r =>
  let (answer, host) := question.run r.host
  (answer, { r with host })

def note (e : RunEvent) : RunM ω Unit := modify fun r => { r with journal := r.journal ++ [e] }

def tell (e : ProgressEvent) : RunM ω Unit := note (.progress e)

/-- The milliseconds between two readings of the clock. -/
def elapsedBetween (started finished : Nat) : Nat := min (finished - started) elapsedLimit

def skipped (context : Option String) (probe : ProbeCase) : ProbeReport :=
  { input := probe.inputFor context, expectation := probe.expect.withContext context,
    status := .skipped, elapsed := 0 }

def probeReport (context : Option String) (probe : ProbeCase) (elapsed : Nat) :
    HarnessResult ProbeVerdict → ProbeReport
  | .ok v =>
    { input := v.input, expectation := v.expected,
      status := if v.outcome.passed then .passed else .failed,
      observed := some v.observed, outcome := some v.outcome, elapsed }
  | .error e =>
    { input := probe.inputFor context, expectation := probe.expect.withContext context,
      status := .errored, error := some e, elapsed }

/-- Whether an outcome means that the session must not be used any more. -/
def abandons : HarnessResult ProbeVerdict → Bool
  | .ok _ => false
  | .error e => e.code.isFatal

variable [Transport σ]

/-- Runs one probe: its report, whether the session must be abandoned, and the terminal. -/
def runProbe (host : Host ω σ) (index : Nat) (session : Session) (probe : ProbeCase)
    (terminal : σ) : RunM ω (ProbeReport × Bool × σ) := do
  let started ← ask host.clock
  let (outcome, terminal) := (session.tryCompletions probe.input probe.expect).run terminal
  let finished ← ask host.clock
  let report := probeReport session.context probe (elapsedBetween started finished) outcome
  tell (.probeCompleted index report.input report.status report.elapsed)
  return (report, abandons outcome, terminal)

/-- Runs probes in order until the session must be abandoned, and skips the rest. -/
def runProbes (host : Host ω σ) (index : Nat) (session : Session) :
    List ProbeCase → σ → RunM ω (List ProbeReport × σ)
  | [], terminal => return ([], terminal)
  | probe :: rest, terminal => do
    let (report, abandoned, terminal) ← runProbe host index session probe terminal
    if abandoned then return (report :: rest.map (skipped session.context), terminal)
    else
      let (reports, terminal) ← runProbes host index session rest terminal
      return (report :: reports, terminal)

/-- The status of probes, unless there is an error besides. -/
def testStatus (probes : List ProbeReport) (error : Option HarnessError) : RunStatus :=
  if error.isSome then .errored else .ofProbes (probes.map (·.status))

def runInSession (host : Host ω σ) (index : Nat) (test : TestCase) (session : Session)
    (terminal : σ) : RunM ω TestReport := do
  let (probes, terminal) ← runProbes host index session test.probes terminal
  note (.shutdown index)
  let (closed, terminal) := session.close.run terminal
  ask (host.release terminal)
  let error := match closed with
    | .ok _ => none
    | .error e => some e
  return ⟨test.name,some session.id,testStatus probes error,probes,error⟩

/-- Runs a test case in a new session. Without a session all probes are skipped. -/
def runTest (host : Host ω σ) (shell : SessionConfig) (config : HarnessConfig) (index : Nat)
    (test : TestCase) : RunM ω TestReport := do
  tell (.testStarted index test.name test.probes.length)
  note (.openSession index)
  let report ← match ← ask (host.openSession shell config) with
    | .ok (session, terminal) => runInSession host index test session terminal
    | .error e =>
      pure ⟨test.name,none,.errored,test.probes.map (skipped shell.context),some e⟩
  tell (.testCompleted index test.name report.status)
  return report

def runTests (host : Host ω σ) (shell : SessionConfig) (config : HarnessConfig) :
    Nat → List TestCase → RunM ω (List TestReport)
  | _, [] => return []
  | index, test :: rest => do
    let report ← runTest host shell config index test
    let reports ← runTests host shell config (index + 1) rest
    return report :: reports

def suiteStatus (tests : List TestReport) (error : Option HarnessError) : RunStatus :=
  if error.isSome then .errored else .combine (tests.map (·.status))

def runValid (host : Host ω σ) (suite : Suite) (config : HarnessConfig) : RunM ω SuiteReport := do
  let runId ← ask host.newId
  let started ← ask host.clock
  tell (.suiteStarted runId suite.name suite.tests.length suite.totalProbes)
  note .setup
  let prepared ← ask host.setup
  let tests ← match prepared with
    | .ok _ => runTests host suite.shell config 1 suite.tests
    | .error _ => pure []
  note .teardown
  let removed ← ask host.teardown
  let error := match prepared, removed with
    | .error e, _ => some e
    | .ok _, .error e => some e
    | .ok _, .ok _ => none
  let status := suiteStatus tests error
  let finished ← ask host.clock
  let elapsed := elapsedBetween started finished
  tell (.suiteCompleted runId status elapsed)
  return ⟨reportVersion,runId,suite.name,status,tests,error,elapsed⟩

end Run

/-- Runs a suite: nothing is done unless the suite and the timing are valid. -/
def Suite.run {ω σ : Type} [Transport σ] (s : Suite) (host : Host ω σ) (options : RunOptions) :
    RunM ω (HarnessResult SuiteReport) :=
  match (do s.validate; s.runConfig options : HarnessResult HarnessConfig) with
  | .error e => return .error e
  | .ok config => return .ok (← Run.runValid host s config)

end TabCompletion
