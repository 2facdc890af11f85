import Mathlib.Data.List.Forall2
import TabCompletion.Proofs.Construction
import TabCompletion.Proofs.Run.FatalErrors
import TabCompletion.Proofs.Run.Suites

/-!
# Brackets of a run

A run sets its fixture up first and removes it last; in between each test case opens one session and
shuts it down before the next one is opened. `SuiteBracketed` says so of the calls of a run and of its
report, with `Bracketed` for each test case, and `run_brackets` says it of every run on every host. A
run whose suite or timing is rejected asks nothing and tells nothing.
-/
namespace TabCompletion

open Run (probeReport skipped)

variable {ω σ : Type} [Transport σ]

/-- A verdict is on the input and the expectation of its probe. -/
theorem Session.answer_ok {s : Session} {probe : ProbeCase} {t : σ} {v : ProbeVerdict}
    (given : (s.answer probe t).1 = .ok v) :
    v.input = probe.inputFor s.context ∧ v.expected = probe.expect.withContext s.context := by
  obtain ⟨made,-,disciplined⟩ := s.tryCompletions_makes probe.input probe.expect ⟨t,[]⟩
  obtain ⟨-,probed,-,recovered,-,-,-,-,outcome⟩ := disciplined.parts
  rw [show ((s.tryCompletions probe.input probe.expect).run t).1 = .ok v from given] at outcome
  rcases probed with e | observed
  · cases outcome
  · rcases recovered with e | ⟨⟩
    · cases outcome
    · cases outcome; exact ⟨rfl,rfl⟩

/-- The report is on the input and the expectation of the probe, with the context filled in. -/
def ProbeReport.On (context : Option String) (probe : ProbeCase) (r : ProbeReport) : Prop :=
  r.input = probe.inputFor context ∧ r.expectation = probe.expect.withContext context

theorem probeReport_on (s : Session) (probe : ProbeCase) (elapsed : Nat) (t : σ) :
    (probeReport s.context probe elapsed (s.answer probe t).1).On s.context probe := by
  cases given : (s.answer probe t).1 with
  | error e => exact ⟨rfl,rfl⟩
  | ok v => exact Session.answer_ok given

theorem skipped_on (context : Option String) (probes : List ProbeCase) :
    List.Forall₂ (fun probe r => r.On context probe) probes (probes.map (skipped context)) := by
  induction probes with
  | nil => exact .nil
  | cons probe rest ih => exact .cons ⟨rfl,rfl⟩ ih

/-- However a probe ends, its report is on its input. -/
theorem ProbesRun.on {s : Session} {probes : List ProbeCase} {t after : σ}
    {reports : List ProbeReport} (run : ProbesRun s probes t reports after) :
    List.Forall₂ (fun probe r => r.On s.context probe) probes reports := by
  induction run with
  | done t => exact .nil
  | @goOn probe rest t t' reports elapsed usable more ih =>
    exact .cons (probeReport_on s probe elapsed t) ih
  | @abandon probe rest t elapsed fatal =>
    exact .cons (probeReport_on s probe elapsed t) (skipped_on s.context rest)

/-- The session was made for the shell. -/
def Session.For (session : Session) (shell : SessionConfig) : Prop :=
  ∃ id config, Session.ofShell id shell config = .ok session

/-- One session is asked for; if it is opened, the last call on its terminal stops the shell, and no
    call before it does. -/
inductive OneSession (shell : SessionConfig) (config : HarnessConfig) : List (HostCall σ) → Prop where
  | refused (e : HarnessError) : OneSession shell config [.openSession shell config (.error e)]
  | used (session : Session) (terminal : σ) (calls : List Call)
      (goesOn : ∀ c ∈ calls, c.isShutdown = false) :
      OneSession shell config [.openSession shell config (.ok (session, terminal)),
        .release (calls ++ [.shutdown session.config.teardownGrace])]

/-- What a host is asked for a test case, and the report of it: one session, and for each probe one
    report. -/
structure Bracketed (shell : SessionConfig) (config : HarnessConfig) (test : TestCase)
    (asked : List (HostCall σ)) (report : TestReport) : Prop where
  session : OneSession shell config asked
  name : report.name = test.name
  /-- Each probe has a report on its input and its expectation, in the context of the shell if the
      session was made for it. -/
  aligned : ∃ context, List.Forall₂ (fun probe r => r.On context probe) test.probes report.probes ∧
    ((∀ session terminal, .openSession shell config (.ok (session, terminal)) ∈ asked →
      session.For shell) → context = shell.context)

theorem SessionCalls.oneSession {shell : SessionConfig} {config : HarnessConfig} {test : TestCase}
    {asked : List (HostCall σ)} {reports : List ProbeReport}
    (calls : SessionCalls shell config test asked reports) : OneSession shell config asked := by
  cases calls with
  | unopened e reports all allSkipped => exact .refused e
  | opened session terminal executed left after use goesOn =>
    exact .used session terminal _ (List.forall_mem_map.mpr goesOn)

theorem TestRun.bracketed {shell : SessionConfig} {config : HarnessConfig} {test : TestCase}
    {asked : List (HostCall σ)} {report : TestReport} (run : TestRun shell config test asked report) :
    Bracketed shell config test asked report where
  session := run.sessionCalls.oneSession
  name := by cases run <;> rfl
  aligned := by
    cases run with
    | refused e => exact ⟨shell.context,skipped_on shell.context test.probes,fun _ => rfl⟩
    | @ran session terminal reports after error probes =>
      refine ⟨session.context,probes.on,fun made => ?_⟩
      obtain ⟨id,config,ofShell⟩ := made session terminal (List.mem_cons_self ..)
      exact Session.context_of_ofShell ofShell

/-- What a host is asked for test cases in order, and the reports of them. -/
inductive TestsBracketed (shell : SessionConfig) (config : HarnessConfig) :
    List TestCase → List (HostCall σ) → List TestReport → Prop where
  | none : TestsBracketed shell config [] [] []
  | next {test : TestCase} {rest : List TestCase} {asked more : List (HostCall σ)} {report : TestReport}
      {reports : List TestReport} (first : Bracketed shell config test asked report)
      (later : TestsBracketed shell config rest more reports) :
      TestsBracketed shell config (test :: rest) (asked ++ more) (report :: reports)

theorem TestsRun.bracketed {shell : SessionConfig} {config : HarnessConfig} {tests : List TestCase}
    {asked : List (HostCall σ)} {reports : List TestReport}
    (run : TestsRun shell config tests asked reports) :
    TestsBracketed shell config tests asked reports := by
  induction run with
  | done => exact .none
  | next first later ih => exact .next first.bracketed ih

/-- What a host is asked in a run, and the report of it: the fixture is set up first and removed last.
    In between the test cases are run, if it could be set up. -/
structure SuiteBracketed (suite : Suite) (config : HarnessConfig) (calls : List (HostCall σ))
    (report : SuiteReport) : Prop where
  brackets : ∃ prepared between removed,
    calls = .setup prepared :: between ++ [.teardown removed] ∧
      match prepared with
      | .ok _ => TestsBracketed suite.shell config suite.tests between report.tests ∧
          ∀ e, report.error = some e ↔ removed = .error e
      | .error e => between = [] ∧ report.tests = [] ∧ report.error = some e
  name : report.suite = suite.name

theorem SuiteRun.bracketed {suite : Suite} {config : HarnessConfig} {calls : List (HostCall σ)}
    {report : SuiteReport} (run : SuiteRun suite config calls report) :
    SuiteBracketed suite config calls report := by
  cases run with
  | unprepared e removed runId elapsed =>
    exact ⟨⟨.error e,[],removed,rfl,rfl,rfl,rfl⟩,rfl⟩
  | prepared tests removed error told runId elapsed =>
    exact ⟨⟨.ok (),_,removed,rfl,tests.bracketed,told⟩,rfl⟩

/-- A run of a suite is an error just if the suite or its timing is rejected, and then it does nothing.
    Any other run is between the two calls for its fixture, and each of its test cases uses one
    session and has one report. -/
theorem run_brackets (s : Suite) (host : Host ω σ) (options : RunOptions) (w : ω)
    (journal : List RunEvent) :
    ∃ calls, (s.run host.watched options).run ⟨⟨w,[]⟩,journal⟩ =
        (((s.run host options).run ⟨w,journal⟩).1,
          ⟨⟨((s.run host options).run ⟨w,journal⟩).2.host,calls⟩,
            ((s.run host options).run ⟨w,journal⟩).2.journal⟩) ∧
      (∀ e, ((s.run host options).run ⟨w,journal⟩).1 = .error e ↔ s.Rejects options e) ∧
      (∀ e, ((s.run host options).run ⟨w,journal⟩).1 = .error e →
        calls = [] ∧ ((s.run host options).run ⟨w,journal⟩).2 = ⟨w,journal⟩) ∧
      ∀ report, ((s.run host options).run ⟨w,journal⟩).1 = .ok report →
        ∃ config, s.runConfig options = .ok config ∧ SuiteBracketed s config calls report := by
  obtain ⟨calls,same,ran⟩ := s.run_watched host options w journal
  refine ⟨calls,same,fun e => ⟨fun fails => ?_,fun rejects => ?_⟩,fun e fails => ?_,fun report given => ?_⟩
  · rw [fails] at ran; exact ran.1
  · rw [Suite.run_of_rejects rejects]; rfl
  · rw [fails] at ran; exact ran.2
  · rw [given] at ran
    obtain ⟨config,-,timing,run⟩ := ran
    exact ⟨config,timing,run.bracketed⟩

end TabCompletion
