import TabCompletion.Proofs.Document.Filling
import TabCompletion.Proofs.Document.Reports
import TabCompletion.Proofs.Run.Bracketing
import TabCompletion.Proofs.Run.Isolation

/-!
# Reading reports of runs

The report of a run holds the expectations of its suite, filled with the name of the context. So it can be read back
unless one of them vanishes (`filled_readable`), and with an empty context there is one that does
(`filling_not_always_legal`).
-/
namespace TabCompletion

variable {ω σ : Type}

/-- The host opens sessions that were made for the shell. -/
def Host.OpensFor (host : Host ω σ) (shell : SessionConfig) : Prop :=
  ∀ config w session t, ((host.openSession shell config).run w).1 = .ok (session, t) → session.For shell

theorem Host.OpensFor.serves {host : Host ω σ} {shell : SessionConfig} (opens : host.OpensFor shell) (config : HarnessConfig) :
    host.Serves shell config (fun _ => True) (fun (_ : Unit) outcome => ∀ session t, outcome = .ok (session, t) → session.For shell)
      (fun _ _ => True) where
  setup _ _ _ := ⟨trivial,trivial⟩
  teardown _ _ _ := ⟨trivial,trivial⟩
  openSession _ _ w _ := ⟨opens config w,trivial⟩
  release _ _ _ _ := trivial
  clock _ _ _ := trivial
  newId _ _ _ := trivial

variable [Transport σ]

/-- The reports of the probes are on their inputs and expectations in the context of the shell. -/
theorem TestReported.on {shell : SessionConfig} {test : TestCase} {outcome : HarnessResult (Session × σ)} {report : TestReport}
    (reported : TestReported shell test outcome report) (opened : ∀ session t, outcome = .ok (session, t) → session.For shell) :
    List.Forall₂ (fun probe r => r.On shell.context probe) test.probes report.probes := by
  cases reported with
  | refused e => exact skipped_on shell.context test.probes
  | @ran session terminal after reports probes =>
    obtain ⟨id,config,made⟩ := opened session terminal rfl
    rw [← Session.context_of_ofShell made]
    exact probes.on

section Run

variable {s : Suite} {host : Host ω σ} {options : RunOptions} {w : ω} {journal : List RunEvent} {report : SuiteReport}

/-- In the report of a run there are no test cases, or all of the suite with all their probes. -/
theorem run_on (opens : host.OpensFor s.shell) (ran : ((s.run host options).run ⟨w,journal⟩).1 = .ok report) :
    report.tests = [] ∨ List.Forall₂ (fun t r => List.Forall₂ (fun probe r => r.On s.shell.context probe) t.probes r.probes)
      s.tests report.tests := by
  obtain ⟨e,rejects⟩ | ⟨config,valid,timing⟩ := s.rejects_or_accepts options
  · rw [Suite.run_of_rejects rejects] at ran
    cases ran
  have same : s.ofCases (s.tests.map fun t => (t, ())) = s := by
    rw [Suite.ofCases,List.map_map,Function.comp_def,List.map_id']
  have validSame : (s.ofCases (s.tests.map fun t => (t, ()))).validate = .ok () := by rwa [same]
  obtain ⟨other,ranOther,served⟩ := Suite.run_served (opens.serves config) _ validSame timing trivial journal
  rw [same,ran] at ranOther
  cases ranOther
  rcases served.tests with ⟨e,-,noReports⟩ | tests
  · exact .inl noReports
  · rw [List.forall₂_map_left_iff] at tests
    exact .inr (tests.imp fun t r ⟨outcome,opened,reported⟩ => reported.on opened)

variable (opens : host.OpensFor s.shell) (ran : ((s.run host options).run ⟨w,journal⟩).1 = .ok report) (fits : report.Fits)
  (readable : ∀ t ∈ s.tests, ∀ p ∈ t.probes, p.expect.Readable)
include opens ran fits readable

/-- If no expectation of the suite vanishes, the report is read back. -/
theorem run_reads (stay : ∀ t ∈ s.tests, ∀ p ∈ t.probes, ¬p.expect.Vanishes s.shell.context) :
    Reads SuiteReport.read report.toJson (.ok report.withoutNulls) := by
  refine SuiteReport.reads_toJson fits fun r member p among empty => ?_
  obtain noReports | tests := run_on opens ran
  · rw [noReports] at member
    cases member
  obtain ⟨t,inSuite,probes⟩ := exists_of_forall₂ tests member
  obtain ⟨probe,inTest,-,expectation⟩ := exists_of_forall₂ probes among
  rw [expectation] at empty
  exact stay t inSuite probe inTest ((readable t inSuite probe inTest).withContext_eq.mp empty)

/-- If some expectation vanishes and its test case was run, the report is refused. -/
theorem run_refuses (nonempty : report.tests ≠ []) (vanish : ∃ t ∈ s.tests, ∃ p ∈ t.probes, p.expect.Vanishes s.shell.context) :
    Reads SuiteReport.read report.toJson (.error (.rule .emptyImmediate)) := by
  have tests := (run_on opens ran).resolve_left nonempty
  obtain ⟨t,inSuite,probe,inTest,vanishes⟩ := vanish
  obtain ⟨r,member,probes⟩ := exists_of_forall₂ tests.flip inSuite
  obtain ⟨p,among,-,expectation⟩ := exists_of_forall₂ probes.flip inTest
  refine SuiteReport.refuses_emptyImmediate fits ⟨r,member,p,among,?_⟩
  rw [expectation]
  exact (readable t inSuite probe inTest).withContext_eq.mpr vanishes

end Run

/-- An expectation that a suite file can contain, filled with the name of a context, is read back as it is, unless it
    vanishes: then it is refused. So the report of a run is read back, unless some expectation of its suite vanishes in
    the context of the shell: then the report is refused. -/
theorem filled_readable :
    (∀ (e : Expectation) (context : Option String), e.Readable →
      (¬e.Vanishes context → Reads Expectation.read (e.withContext context).toJson (.ok (e.withContext context))) ∧
      (e.Vanishes context → Reads Expectation.read (e.withContext context).toJson (.error (.rule .emptyImmediate)))) ∧
    ∀ (s : Suite) (host : Host ω σ) (options : RunOptions) (w : ω) (journal : List RunEvent) (report : SuiteReport),
      (∀ t ∈ s.tests, ∀ p ∈ t.probes, p.expect.Readable) → host.OpensFor s.shell →
      ((s.run host options).run ⟨w,journal⟩).1 = .ok report → report.Fits →
      ((∀ t ∈ s.tests, ∀ p ∈ t.probes, ¬p.expect.Vanishes s.shell.context) →
        Reads SuiteReport.read report.toJson (.ok report.withoutNulls)) ∧
      (report.tests ≠ [] → (∃ t ∈ s.tests, ∃ p ∈ t.probes, p.expect.Vanishes s.shell.context) →
        Reads SuiteReport.read report.toJson (.error (.rule .emptyImmediate))) := by
  refine ⟨fun e context readable => ⟨readable.reads_filled,readable.refuses_filled⟩,?_⟩
  intro s host options w journal report readable opens ran fits
  exact ⟨run_reads opens ran fits readable,run_refuses opens ran fits readable⟩

/-- The text is expected that is the name of the context. -/
def contextExpected : Expectation := .immediate contextPlaceholder

theorem contextExpected_reads : Expectation.read (.ofJson contextExpected.toJson) = .ok contextExpected :=
  Expectation.reads_toJson (by decide) _ (.refl _)

theorem contextExpected_vanishes : contextExpected.Vanishes (some "") := ⟨rfl,1,by simp⟩

theorem filling_not_always_legal : ¬∀ (n : Node) (e : Expectation) (context : Option String), Expectation.read n = .ok e →
    Expectation.read (.ofJson (e.withContext context).toJson) = .ok (e.withContext context) := by
  intro legal
  have reads := legal _ contextExpected (some "") contextExpected_reads
  have readable : contextExpected.Readable := ⟨_,contextExpected_reads⟩
  rw [readable.refuses_filled contextExpected_vanishes _ (.refl _)] at reads
  cases reads

/-- A suite with that expectation and an empty context. -/
def emptyContextSuite : Suite where
  name := "empty context"
  shell := fixtureShellConfig "fake" ""
  tests := [⟨"one",[⟨"SEL",contextExpected⟩]⟩]

/-- A host on which no session is opened. -/
def refusingHost (e : HarnessError) : Host Unit Scripted where
  setup := return .ok ()
  teardown := return .ok ()
  openSession _ _ := return .error e
  release _ := return ()
  clock := return 0
  newId := return ⟨0⟩

theorem refusingHost_opensFor (e : HarnessError) (shell : SessionConfig) : (refusingHost e).OpensFor shell := by
  intro config w session t made
  cases made

/-- The report of its run without a session. -/
def emptyContextReport : SuiteReport where
  version := reportVersion
  runId := ⟨0⟩
  suite := "empty context"
  status := .errored
  tests := [⟨"one",none,.errored,[Run.skipped (some "") ⟨"SEL",contextExpected⟩],some (.plain .io "no terminal")⟩]
  error := none
  elapsed := 0

theorem emptyContextSuite_run :
    ((emptyContextSuite.run (refusingHost (.plain .io "no terminal")) {}).run ⟨(),[]⟩).1 = .ok emptyContextReport := by
  have valid : emptyContextSuite.validate = .ok () := by
    refine Suite.validate_eq_ok.mpr ⟨rfl,by decide,by decide,?_,nofun,by decide⟩
    exact Prompt.ofTemplate_fixture.mpr (by decide)
  have timing : emptyContextSuite.runConfig {} = .ok {} := by rfl
  rw [Suite.run_of_accepts valid timing]
  rfl

theorem emptyContextReport_fits : emptyContextReport.Fits := by
  refine ⟨by decide,List.forall_mem_singleton.mpr ⟨List.forall_mem_singleton.mpr ⟨nofun,nofun,by decide⟩,?_⟩,nofun,by decide⟩
  rintro e is details there
  cases is
  cases there

/-- The report of the run is refused, while the expectation in a context with a name is read back. -/
theorem emptyContextReport_refused :
    Reads SuiteReport.read emptyContextReport.toJson (.error (.rule .emptyImmediate)) ∧
    Reads Expectation.read (contextExpected.withContext (some "ks")).toJson (.ok (contextExpected.withContext (some "ks"))) := by
  have readable : contextExpected.Readable := ⟨_,contextExpected_reads⟩
  have suite : ∀ t ∈ emptyContextSuite.tests, ∀ p ∈ t.probes, p.expect.Readable :=
    List.forall_mem_singleton.mpr (List.forall_mem_singleton.mpr readable)
  obtain ⟨expectations,runs⟩ := filled_readable (ω := Unit) (σ := Scripted)
  obtain ⟨-,refuses⟩ := runs emptyContextSuite _ {} () [] emptyContextReport suite (refusingHost_opensFor _ _)
    emptyContextSuite_run emptyContextReport_fits
  refine ⟨refuses (by decide) ⟨_,List.mem_cons_self,_,List.mem_cons_self,contextExpected_vanishes⟩,?_⟩
  exact (expectations contextExpected (some "ks") readable).1 fun vanishes => absurd vanishes.1 (by decide)

end TabCompletion
