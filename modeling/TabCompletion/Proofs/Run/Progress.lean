import TabCompletion.Proofs.Run.FatalErrors
import TabCompletion.Proofs.Run.Suites

/-!
# Progress of a run

What a run tells while it goes on is what its report says in the end. `Tells` says what a part of a run
tells, whatever its host answers; `TestTold` and `TestsTold` are the trace of reports of test cases, and
`SuiteTold` that of a whole run. `run_tells` says it of the report of every run.
-/
namespace TabCompletion

open Run (probeReport skipped)

variable {ω σ α β : Type}

/-- The event that is told, if it is one. -/
def RunEvent.progress? : RunEvent → Option ProgressEvent
  | .progress e => some e
  | _ => none

/-- What is told in a part of a journal. -/
def told (events : List RunEvent) : List ProgressEvent := events.filterMap RunEvent.progress?

/-- What is told of a probe that was run. -/
def ProbeReport.completed (index : Nat) (r : ProbeReport) : ProgressEvent :=
  .probeCompleted index r.input r.status r.elapsed

/-- What is told of probes: the end of each that was run. -/
def probesTold (index : Nat) (reports : List ProbeReport) : List ProgressEvent :=
  (reports.filter (·.status ≠ .skipped)).map (·.completed index)

/-- What is told of a test case: its start, its probes, and its end. The report is on the test case, with one
    report for each probe. -/
structure TestTold (index : Nat) (test : TestCase) (report : TestReport) (events : List ProgressEvent) : Prop where
  name : report.name = test.name
  probes : report.probes.length = test.probes.length
  trace : events = .testStarted index test.name test.probes.length :: probesTold index report.probes ++
    [.testCompleted index test.name report.status]

/-- What is told of test cases, counted from `index`: one after the other, each with its report. -/
inductive TestsTold : Nat → List TestCase → List TestReport → List ProgressEvent → Prop where
  | none (index : Nat) : TestsTold index [] [] []
  | next {index : Nat} {test : TestCase} {rest : List TestCase} {report : TestReport} {reports : List TestReport}
      {events more : List ProgressEvent} (first : TestTold index test report events)
      (later : TestsTold (index + 1) rest reports more) :
      TestsTold index (test :: rest) (report :: reports) (events ++ more)

/-- What is told of a run: its start, what is told in between, and its end. -/
def SuiteReport.trace (suite : Suite) (r : SuiteReport) (between : List ProgressEvent) : List ProgressEvent :=
  .suiteStarted r.runId suite.name suite.tests.length suite.totalProbes :: between ++
    [.suiteCompleted r.runId r.status r.elapsed]

/-- What is told of a run whose fixture was set up with this outcome: in between all test cases are told of,
    or nothing if there is no fixture. -/
def SuiteTold (suite : Suite) (prepared : HarnessResult Unit) (report : SuiteReport) (events : List ProgressEvent) :
    Prop :=
  ∃ between, events = report.trace suite between ∧
    match prepared with
    | .ok _ => TestsTold 1 suite.tests report.tests between
    | .error _ => report.tests = [] ∧ between = []

@[simp] theorem told_nil : told [] = [] := rfl

@[simp] theorem told_append (xs ys : List RunEvent) : told (xs ++ ys) = told xs ++ told ys := List.filterMap_append

@[simp] theorem told_progress (e : ProgressEvent) : told [.progress e] = [e] := rfl

@[simp] theorem told_setup : told [.setup] = [] := rfl

@[simp] theorem told_teardown : told [.teardown] = [] := rfl

@[simp] theorem told_openSession (index : Nat) : told [.openSession index] = [] := rfl

@[simp] theorem told_shutdown (index : Nat) : told [.shutdown index] = [] := rfl

theorem probesTold_cons {index : Nat} {report : ProbeReport} {reports : List ProbeReport}
    (executed : report.status ≠ .skipped) :
    probesTold index (report :: reports) = report.completed index :: probesTold index reports := by
  rw [probesTold,List.filter_cons_of_pos (by simpa using executed),List.map_cons]
  rfl

/-- Nothing is told of probes that are skipped. -/
theorem probesTold_skipped (index : Nat) (context : Option String) (probes : List ProbeCase) :
    probesTold index (probes.map (skipped context)) = [] := by
  have nothing : (probes.map (skipped context)).filter (·.status ≠ .skipped) = [] := by
    refine List.filter_eq_nil_iff.mpr fun report member => ?_
    obtain ⟨probe,-,rfl⟩ := List.mem_map.mp member
    simp [skipped]
  rw [probesTold,nothing,List.map_nil]

/-! ## What parts of a run tell -/

/-- Whatever the host answers, the part of a run adds events to the journal; `P` holds of what is told by
    them and of the result. -/
def Tells (d : RunM ω α) (P : List ProgressEvent → α → Prop) : Prop :=
  ∀ r : Running ω, ∃ events, (d.run r).2.journal = r.journal ++ events ∧ P (told events) (d.run r).1

namespace Tells

variable {d : RunM ω α} {f : α → RunM ω β} {P Q : List ProgressEvent → α → Prop} {R : List ProgressEvent → β → Prop}

theorem pure {a : α} (holds : P [] a) : Tells (Pure.pure a : RunM ω α) P := by
  intro r
  exact ⟨[],(List.append_nil _).symm,holds⟩

theorem bind (first : Tells d P) (rest : ∀ events a, P events a → Tells (f a) fun more b => R (events ++ more) b) :
    Tells (d >>= f) R := by
  intro r
  obtain ⟨events,adds,holds⟩ := first r
  obtain ⟨more,continues,all⟩ := rest (told events) (d.run r).1 holds (d.run r).2
  refine ⟨events ++ more,?_,?_⟩
  · rw [← List.append_assoc,← adds]
    exact continues
  · rw [told_append]
    exact all

theorem mono (first : Tells d P) (weaker : ∀ events a, P events a → Q events a) : Tells d Q := by
  intro r
  obtain ⟨events,adds,holds⟩ := first r
  exact ⟨events,adds,weaker _ _ holds⟩

/-- To ask the host tells nothing. -/
theorem ask_bind {question : StateM ω α} (rest : ∀ a, Tells (f a) R) : Tells (Run.ask question >>= f) R := by
  intro r
  exact rest _ _

theorem note_bind {e : RunEvent} {f : Unit → RunM ω β} (rest : Tells (f ()) fun more b => R (told [e] ++ more) b) :
    Tells (Run.note e >>= f) R := by
  have first : Tells (Run.note e : RunM ω Unit) fun events _ => events = told [e] := by
    intro r
    exact ⟨[e],rfl,rfl⟩
  refine first.bind ?_
  rintro events ⟨⟩ rfl
  exact rest

end Tells

section Parts

variable [Transport σ]

theorem runProbe_tells (host : Host ω σ) (index : Nat) (s : Session) (probe : ProbeCase) (t : σ) :
    Tells (Run.runProbe host index s probe t) fun events result =>
      events = [result.1.completed index] ∧ result.1.status ≠ .skipped := by
  unfold Run.runProbe
  refine Tells.ask_bind fun started => Tells.ask_bind fun finished => Tells.note_bind (Tells.pure ?_)
  exact ⟨rfl,probeReport_executed _ _ _ _⟩

/-- Each probe that is run is told of, and no other. -/
theorem runProbes_tells (host : Host ω σ) (index : Nat) (s : Session) (probes : List ProbeCase) (t : σ) :
    Tells (Run.runProbes host index s probes t) fun events result =>
      events = probesTold index result.1 ∧ result.1.length = probes.length := by
  induction probes generalizing t with
  | nil => exact Tells.pure ⟨rfl,rfl⟩
  | cons probe rest ih =>
    unfold Run.runProbes
    refine (runProbe_tells host index s probe t).bind ?_
    rintro events ⟨report,abandoned,terminal⟩ ⟨rfl,executed⟩
    cases abandoned with
    | true =>
      refine Tells.pure ⟨?_,?_⟩
      · rw [probesTold_cons executed,probesTold_skipped]
        rfl
      · rw [List.length_cons,List.length_cons,List.length_map]
    | false =>
      refine (ih terminal).bind ?_
      rintro more ⟨reports,after⟩ ⟨rfl,length⟩
      refine Tells.pure ⟨?_,?_⟩
      · rw [probesTold_cons executed,List.append_nil]
        rfl
      · rw [List.length_cons,List.length_cons,length]

/-- The start and the end of a session are not told. -/
theorem runInSession_tells (host : Host ω σ) (index : Nat) (test : TestCase) (session : Session) (t : σ) :
    Tells (Run.runInSession host index test session t) fun events report => report.name = test.name ∧
      report.probes.length = test.probes.length ∧ events = probesTold index report.probes := by
  unfold Run.runInSession
  refine (runProbes_tells host index session test.probes t).bind ?_
  rintro events ⟨reports,after⟩ ⟨rfl,length⟩
  refine Tells.note_bind (Tells.ask_bind fun released => Tells.pure ⟨rfl,length,?_⟩)
  rw [told_shutdown,List.nil_append,List.append_nil]

theorem runTest_tells (host : Host ω σ) (shell : SessionConfig) (config : HarnessConfig) (index : Nat) (test : TestCase) :
    Tells (Run.runTest host shell config index test) fun events report => TestTold index test report events := by
  unfold Run.runTest
  refine Tells.note_bind (Tells.note_bind (Tells.ask_bind fun opened => ?_))
  -- However the session was opened, the end of the test case is told with the status of its report.
  have ends (report : TestReport) (name : report.name = test.name) (probes : report.probes.length = test.probes.length) :
      Tells (do Run.tell (.testCompleted index test.name report.status); return report : RunM ω TestReport)
        fun more report => TestTold index test report
          (told [.progress (.testStarted index test.name test.probes.length)] ++ (told [.openSession index] ++
            (probesTold index report.probes ++ more))) := by
    refine Tells.note_bind (Tells.pure ⟨name,probes,?_⟩)
    simp
  cases opened with
  | error e =>
    have skips := probesTold_skipped index shell.context test.probes
    have length : (test.probes.map (skipped shell.context)).length = test.probes.length := List.length_map _
    refine Tells.bind (P:=fun events report => report.name = test.name ∧
      report.probes.length = test.probes.length ∧ events = probesTold index report.probes)
      (Tells.pure ⟨rfl,length,skips.symm⟩) ?_
    rintro events report ⟨name,probes,rfl⟩
    exact ends report name probes
  | ok opened =>
    refine (runInSession_tells host index test opened.1 opened.2).bind ?_
    rintro events report ⟨name,probes,rfl⟩
    exact ends report name probes

theorem runTests_tells (host : Host ω σ) (shell : SessionConfig) (config : HarnessConfig) (index : Nat)
    (tests : List TestCase) :
    Tells (Run.runTests host shell config index tests) fun events reports => TestsTold index tests reports events := by
  induction tests generalizing index with
  | nil => exact Tells.pure (.none index)
  | cons test rest ih =>
    unfold Run.runTests
    refine (runTest_tells host shell config index test).bind ?_
    intro events report first
    refine (ih (index + 1)).bind ?_
    intro more reports later
    refine Tells.pure ?_
    rw [List.append_nil]
    exact .next first later

/-! ## Suites -/

theorem runValid_tells (host : Host ω σ) (suite : Suite) (config : HarnessConfig) :
    Tells (Run.runValid host suite config) fun events report => ∃ between, events = report.trace suite between ∧
      (TestsTold 1 suite.tests report.tests between ∨ report.tests = [] ∧ between = []) := by
  unfold Run.runValid
  refine Tells.ask_bind fun runId => Tells.ask_bind fun started => Tells.note_bind (Tells.note_bind ?_)
  refine Tells.ask_bind fun prepared => ?_
  cases prepared with
  | error e =>
    refine Tells.bind (P:=fun events tests => tests = [] ∧ events = []) (Tells.pure ⟨rfl,rfl⟩) ?_
    rintro events tests ⟨rfl,rfl⟩
    refine Tells.note_bind (Tells.ask_bind fun removed => Tells.ask_bind fun finished => ?_)
    refine Tells.note_bind (Tells.pure ?_)
    exact ⟨[],by simp [SuiteReport.trace],.inr ⟨rfl,rfl⟩⟩
  | ok u =>
    refine (runTests_tells host suite.shell config 1 suite.tests).bind ?_
    intro between tests all
    refine Tells.note_bind (Tells.ask_bind fun removed => Tells.ask_bind fun finished => ?_)
    refine Tells.note_bind (Tells.pure ?_)
    exact ⟨between,by simp [SuiteReport.trace],.inl all⟩

/-- Whether the test cases are told of is seen from the first call to the host, which sets up the fixture. -/
theorem SuiteRun.told {suite : Suite} {config : HarnessConfig} {calls : List (HostCall σ)} {report : SuiteReport}
    {between : List ProgressEvent} (run : SuiteRun suite config calls report)
    (all : TestsTold 1 suite.tests report.tests between ∨ report.tests = [] ∧ between = []) :
    ∃ prepared, calls.head? = some (.setup prepared) ∧ SuiteTold suite prepared report (report.trace suite between) := by
  cases run with
  | unprepared e removed runId elapsed =>
    refine ⟨.error e,rfl,between,rfl,rfl,?_⟩
    rcases all with all | ⟨-,nothing⟩
    · generalize suite.tests = tests at all
      cases all
      rfl
    · exact nothing
  | prepared tests removed error told runId elapsed =>
    -- Without reports there are no test cases, and nothing is the trace of them.
    refine ⟨.ok (),rfl,between,rfl,?_⟩
    rcases all with all | ⟨empty,rfl⟩
    · exact all
    · obtain rfl : _ = [] := empty
      generalize suite.tests = given at tests ⊢
      cases tests
      exact .none 1

end Parts

/-- On every host what a run tells is the trace of its report. -/
theorem run_tells [Transport σ] (s : Suite) (host : Host ω σ) (options : RunOptions) (w : ω) (journal : List RunEvent) :
    ∃ calls, (s.run host.watched options).run ⟨⟨w,[]⟩,journal⟩ =
        (((s.run host options).run ⟨w,journal⟩).1,
          ⟨⟨((s.run host options).run ⟨w,journal⟩).2.host,calls⟩,
            ((s.run host options).run ⟨w,journal⟩).2.journal⟩) ∧
      ∀ report, ((s.run host options).run ⟨w,journal⟩).1 = .ok report →
        ∃ prepared events, calls.head? = some (.setup prepared) ∧
          ((s.run host options).run ⟨w,journal⟩).2.journal = journal ++ events ∧
          SuiteTold s prepared report (told events) := by
  obtain ⟨calls,same,ran⟩ := s.run_watched host options w journal
  refine ⟨calls,same,fun report given => ?_⟩
  rw [given] at ran
  obtain ⟨config,valid,timing,run⟩ := ran
  rw [Suite.run_of_accepts valid timing] at given ⊢
  obtain ⟨events,adds,between,trace,all⟩ := runValid_tells host s config ⟨w,journal⟩
  have made : ((Run.runValid host s config).run ⟨w,journal⟩).1 = report := Except.ok.inj given
  rw [made] at trace all
  obtain ⟨prepared,first,told⟩ := run.told all
  rw [← trace] at told
  exact ⟨prepared,events,first,adds,told⟩

end TabCompletion
