import Mathlib.Data.List.FinRange
import Mathlib.Data.List.OfFn
import Mathlib.Data.List.Perm.Basic
import TabCompletion.Proofs.Construction
import TabCompletion.Proofs.Prompt
import TabCompletion.Proofs.Run.Hosts
import TabCompletion.Transport.Scripted

/-!
# Test cases on their own

What a test case and its opening are reported as does not depend on what else a suite holds, but for identifiers and
times (`TestReported.unique`). So test cases do not influence each other (`tests_isolated`): each has the report that
it has alone, they may be put in another order, and one of them may be changed without changing the others.
-/
namespace TabCompletion

open Run (abandons probeReport skipped)

variable {σ : Type}

/-- How a session is opened for a shell with some timing: the session on its terminal, or why there is none. -/
abbrev Opening (σ : Type) := SessionConfig → HarnessConfig → HarnessResult (Session × σ)

/-- The session under another identifier. -/
def Session.named (id : Identifier) (made : Session × σ) : Session × σ := ({ made.1 with id }, made.2)

/-- The fixture of the host can be set up and removed, and each session is opened by the first of the openings that
    are left, under an identifier of its own. Nothing else changes what is left. -/
structure Host.Hands {ω : Type} (host : Host ω σ) (left : ω → List (Opening σ)) : Prop where
  setup : ∀ w, (host.setup.run w).1 = .ok () ∧ left (host.setup.run w).2 = left w
  teardown : ∀ w, (host.teardown.run w).1 = .ok () ∧ left (host.teardown.run w).2 = left w
  openSession : ∀ shell config w o rest, left w = o :: rest →
    (∃ id, ((host.openSession shell config).run w).1 = (o shell config).map (Session.named id)) ∧
      left ((host.openSession shell config).run w).2 = rest
  release : ∀ t w, left ((host.release t).run w).2 = left w
  clock : ∀ w, left (host.clock.run w).2 = left w
  newId : ∀ w, left (host.newId.run w).2 = left w

theorem Host.Hands.serves {ω : Type} {host : Host ω σ} {left : ω → List (Opening σ)} (hands : host.Hands left)
    (shell : SessionConfig) (config : HarnessConfig) : host.Serves shell config (· = .ok ())
      (fun o outcome => ∃ id, outcome = (o shell config).map (Session.named id)) (fun items w => left w = items) where
  setup _ w is := ⟨(hands.setup w).1,(hands.setup w).2.trans is⟩
  teardown _ w is := ⟨(hands.teardown w).1,(hands.teardown w).2.trans is⟩
  openSession o items w is := hands.openSession shell config w o items is
  release t _ w is := (hands.release t w).trans is
  clock _ w is := (hands.clock w).trans is
  newId _ w is := (hands.newId w).trans is

/-- The report without its time. -/
def ProbeReport.unstamped (r : ProbeReport) : ProbeReport := { r with elapsed := 0 }

/-- The report without identifiers and times. -/
def TestReport.unstamped (t : TestReport) : TestReport :=
  { t with sessionId := t.sessionId.map fun _ => default, probes := t.probes.map ProbeReport.unstamped }

theorem probeReport_unstamped (context : Option String) (probe : ProbeCase) (elapsed other : Nat)
    (r : HarnessResult ProbeVerdict) :
    (probeReport context probe elapsed r).unstamped = (probeReport context probe other r).unstamped := by
  cases r with
  | error e => rfl
  | ok v => rfl

theorem statuses_unstamped (reports : List ProbeReport) :
    (reports.map ProbeReport.unstamped).map (·.status) = reports.map (·.status) := by
  rw [List.map_map]
  rfl

theorem testStatus_unstamped (reports : List ProbeReport) (error : Option HarnessError) :
    Run.testStatus (reports.map ProbeReport.unstamped) error = Run.testStatus reports error := by
  rw [Run.testStatus,Run.testStatus,statuses_unstamped]

theorem SuiteReport.count_unstamped (r : SuiteReport) (status : ProbeStatus) :
    r.count status = ((r.tests.map TestReport.unstamped).flatMap (·.probes)).countP (·.status == status) := by
  have probes : ∀ t : TestReport, t.unstamped.probes.countP (·.status == status) = t.probes.countP (·.status == status) := by
    intro t
    rw [TestReport.unstamped,List.countP_map]
    rfl
  rw [count,List.countP_flatMap,List.countP_flatMap,List.map_map]
  exact congrArg List.sum (List.map_congr_left fun t _ => (probes t).symm)

variable [Transport σ]

/-- Probes on one terminal are reported alike, but for times. -/
theorem ProbesRun.unique {s : Session} {probes : List ProbeCase} {t after final : σ} {reports others : List ProbeReport}
    (first : ProbesRun s probes t reports after) (second : ProbesRun s probes t others final) :
    reports.map ProbeReport.unstamped = others.map ProbeReport.unstamped ∧ after = final := by
  -- Both runs go on or stop at the same probe: what a session answers depends on its terminal only.
  induction first generalizing others with
  | done t =>
    cases second
    exact ⟨rfl,rfl⟩
  | goOn elapsed usable more ih =>
    cases second with
    | goOn other _ later =>
      obtain ⟨same,ends⟩ := ih later
      rw [List.map_cons,List.map_cons,same,probeReport_unstamped _ _ elapsed other]
      exact ⟨rfl,ends⟩
    | abandon rest other fatal =>
      rw [usable] at fatal
      cases fatal
  | abandon rest elapsed fatal =>
    cases second with
    | goOn other usable later =>
      rw [fatal] at usable
      cases usable
    | abandon _ other _ =>
      rw [List.map_cons,List.map_cons,probeReport_unstamped _ _ elapsed other]
      exact ⟨rfl,rfl⟩

theorem ProbesRun.named {id : Identifier} {s : Session} {probes : List ProbeCase} {t after : σ} {reports : List ProbeReport}
    (run : ProbesRun { s with id } probes t reports after) : ProbesRun s probes t reports after := by
  induction run with
  | done t => exact .done t
  | goOn elapsed usable more ih => exact .goOn elapsed usable ih
  | abandon rest elapsed fatal => exact .abandon rest elapsed fatal

/-- A test case is reported alike in the same session, but for identifiers and times. -/
theorem TestReported.unique {shell : SessionConfig} {test : TestCase} {outcome : HarnessResult (Session × σ)}
    {id otherId : Identifier} {report other : TestReport} (first : TestReported shell test (outcome.map (Session.named id)) report)
    (second : TestReported shell test (outcome.map (Session.named otherId)) other) : report.unstamped = other.unstamped := by
  cases outcome with
  | error e =>
    cases first
    cases second
    rfl
  | ok made =>
    cases first with
    | ran probes =>
      cases second with
      | ran others =>
        obtain ⟨same,rfl⟩ := probes.named.unique others.named
        rw [TestReport.unstamped,TestReport.unstamped,← testStatus_unstamped,same,testStatus_unstamped]
        rfl

/-! ## Suites -/

section Suites

variable {shell : SessionConfig} {config : HarnessConfig} {cases others : List (TestCase × Opening σ)}
  {report other : SuiteReport}

/-- The report of a suite whose test cases were run in the sessions of their openings. -/
structure SuiteReported (shell : SessionConfig) (config : HarnessConfig) (cases : List (TestCase × Opening σ))
    (report : SuiteReport) : Prop where
  tests : List.Forall₂ (fun c r => ∃ id, TestReported shell c.1 ((c.2 shell config).map (Session.named id)) r) cases report.tests
  status : report.status = .combine (report.tests.map (·.status))

/-- On a host that hands out the openings of its test cases, an accepted suite is run to a report. -/
theorem Suite.run_handed {ω : Type} {host : Host ω σ} {left : ω → List (Opening σ)} (hands : host.Hands left) (s : Suite)
    (cases : List (TestCase × Opening σ)) {options : RunOptions} {config : HarnessConfig}
    (valid : (s.ofCases cases).validate = .ok ()) (timing : s.runConfig options = .ok config) {w : ω}
    (given : left w = cases.map (·.2)) (journal : List RunEvent) :
    ∃ report, (((s.ofCases cases).run host options).run ⟨w,journal⟩).1 = .ok report ∧
      SuiteReported s.shell config cases report := by
  obtain ⟨report,ran,served⟩ := Suite.run_served (hands.serves s.shell config) cases valid timing given journal
  refine ⟨report,ran,?_,?_⟩
  · obtain ⟨e,not,-⟩ | tests := served.tests
    · cases not
    · refine tests.imp ?_
      rintro c r ⟨_,⟨id,rfl⟩,reported⟩
      exact ⟨id,reported⟩
  · have noError : report.error = none := Option.eq_none_iff_forall_ne_some.mpr fun e is => nomatch served.error e is
    rw [served.status,Run.suiteStatus,noError]
    rfl

/-- The report of a test case with its opening, without identifiers and times. -/
def ReportedAs (shell : SessionConfig) (config : HarnessConfig) (c : TestCase × Opening σ) (bare : TestReport) : Prop :=
  ∃ id t, TestReported shell c.1 ((c.2 shell config).map (Session.named id)) t ∧ t.unstamped = bare

theorem reportedAs_unique : Relator.RightUnique (ReportedAs (σ := σ) shell config) := by
  rintro c _ _ ⟨id,t,first,rfl⟩ ⟨otherId,u,second,rfl⟩
  exact first.unique second

theorem SuiteReported.bare (reported : SuiteReported shell config cases report) :
    List.Forall₂ (ReportedAs shell config) cases (report.tests.map TestReport.unstamped) := by
  rw [List.forall₂_map_right_iff]
  exact reported.tests.imp fun c t ⟨id,is⟩ => ⟨id,t,is,rfl⟩

theorem SuiteReported.length (reported : SuiteReported shell config cases report) : report.tests.length = cases.length :=
  reported.tests.length_eq.symm

/-- Where two suites have the same test case with the same opening, they have the same report of it. -/
theorem SuiteReported.same (first : SuiteReported shell config cases report) (second : SuiteReported shell config others other)
    {i j : Nat} (here : cases[i]? = others[j]?) :
    report.tests[i]?.map TestReport.unstamped = other.tests[j]?.map TestReport.unstamped := by
  by_cases inside : j < others.length
  · rw [List.getElem?_eq_getElem inside] at here
    obtain ⟨insideFirst,is⟩ := List.getElem?_eq_some_iff.mp here
    have within : i < report.tests.length := by rwa [first.length]
    have withinOther : j < other.tests.length := by rwa [second.length]
    obtain ⟨id,reported⟩ := first.tests.get insideFirst within
    obtain ⟨otherId,reportedOther⟩ := second.tests.get inside withinOther
    simp only [List.get_eq_getElem,is] at reported reportedOther
    rw [List.getElem?_eq_getElem within,List.getElem?_eq_getElem withinOther,Option.map_some,Option.map_some,
      reported.unique reportedOther]
  · have outside : cases[i]? = none := here.trans (List.getElem?_eq_none (not_lt.mp inside))
    rw [List.getElem?_eq_none_iff,← first.length] at outside
    rw [not_lt,← second.length] at inside
    rw [List.getElem?_eq_none outside,List.getElem?_eq_none inside]

/-- Test cases in another order have the same reports in another order. -/
theorem SuiteReported.perm (first : SuiteReported shell config cases report)
    (second : SuiteReported shell config others other) (order : cases.Perm others) :
    (report.tests.map TestReport.unstamped).Perm (other.tests.map TestReport.unstamped) := by
  obtain ⟨bares,reported,kept⟩ := List.perm_comp_forall₂ order second.bare
  rwa [List.right_unique_forall₂' reportedAs_unique first.bare reported]

theorem max_comm (a b : RunStatus) : a.max b = b.max a := by cases a <;> cases b <;> rfl

theorem max_assoc (a b c : RunStatus) : (a.max b).max c = a.max (b.max c) := by cases a <;> cases b <;> cases c <;> rfl

instance : RightCommutative RunStatus.max := ⟨fun a b c => by rw [max_assoc,max_comm b c,← max_assoc]⟩

/-- The order of test cases matters neither to the status nor to the counts. -/
theorem SuiteReported.totals (first : SuiteReported shell config cases report)
    (second : SuiteReported shell config others other) (order : cases.Perm others) :
    report.status = other.status ∧ ∀ status, report.count status = other.count status := by
  have kept := first.perm second order
  constructor
  · have statuses : ∀ tests : List TestReport, tests.map (·.status) = (tests.map TestReport.unstamped).map (·.status) := by
      intro tests
      rw [List.map_map]
      rfl
    rw [first.status,second.status,statuses,statuses other.tests,RunStatus.combine,RunStatus.combine]
    exact (kept.map _).foldl_eq _
  · intro status
    rw [SuiteReport.count_unstamped,SuiteReport.count_unstamped]
    exact (kept.flatMap_right _).countP_eq _

end Suites

/-- On every host that hands out the openings of the test cases in order, the suite with these is run to a report
    with the property. -/
def Suite.Reports (s : Suite) (options : RunOptions) (cases : List (TestCase × Opening σ)) (P : SuiteReport → Prop) : Prop :=
  ∀ (ω : Type) (host : Host ω σ) (left : ω → List (Opening σ)), host.Hands left → ∀ w journal, left w = cases.map (·.2) →
    ∃ report, (((s.ofCases cases).run host options).run ⟨w,journal⟩).1 = .ok report ∧ P report

omit [Transport σ] in
theorem Suite.validate_ofCases {s : Suite} {cases others : List (TestCase × Opening σ)}
    (valid : (s.ofCases cases).validate = .ok ()) (filled : ∀ c ∈ others, c.1.probes ≠ []) :
    (s.ofCases others).validate = .ok () := by
  obtain ⟨version,command,prompt,compiles,timing,-⟩ := validate_eq_ok.mp valid
  exact validate_eq_ok.mpr ⟨version,command,prompt,compiles,timing,List.forall_mem_map.mpr filled⟩

theorem Suite.reports_of_valid {s : Suite} {options : RunOptions} {config : HarnessConfig}
    {cases : List (TestCase × Opening σ)} {P : SuiteReport → Prop} (valid : (s.ofCases cases).validate = .ok ())
    (timing : s.runConfig options = .ok config) (holds : ∀ report, SuiteReported s.shell config cases report → P report) :
    s.Reports options cases P := by
  intro ω host left hands w journal given
  obtain ⟨report,ran,reported⟩ := Suite.run_handed hands s cases valid timing given journal
  exact ⟨report,ran,holds report reported⟩

/-- Test cases do not influence each other: every test case of an accepted suite has the report that it has alone,
    but for identifiers and times. Test cases in another order, together with their openings, have the same reports in
    that order, with the same status and the same counts; and whatever comes of one test case that is changed, the
    others have the same reports. -/
theorem tests_isolated (s : Suite) (options : RunOptions) (cases : List (TestCase × Opening σ))
    (accepted : ¬∃ e, (s.ofCases cases).Rejects options e) : s.Reports options cases fun report =>
      report.tests.length = cases.length ∧
      (∀ (i : Nat) (c : TestCase × Opening σ), cases[i]? = some c → s.Reports options [c] fun alone =>
        ∃ t u : TestReport, report.tests[i]? = some t ∧ alone.tests = [u] ∧ t.unstamped = u.unstamped) ∧
      (∀ e : Equiv.Perm (Fin cases.length), s.Reports options (List.ofFn fun i => cases[e i]) fun permuted =>
        (∀ i : Fin cases.length, permuted.tests[i]?.map TestReport.unstamped = report.tests[e i]?.map TestReport.unstamped) ∧
          permuted.status = report.status ∧ ∀ status, permuted.count status = report.count status) ∧
      ∀ (k : Nat) (c : TestCase × Opening σ), c.1.probes ≠ [] → s.Reports options (cases.set k c) fun changed =>
        ∀ i : Nat, i ≠ k → changed.tests[i]?.map TestReport.unstamped = report.tests[i]?.map TestReport.unstamped := by
  obtain rejects | ⟨config,valid,timing⟩ := (s.ofCases cases).rejects_or_accepts options
  · exact absurd rejects accepted
  have filled : ∀ c ∈ cases, c.1.probes ≠ [] := by
    obtain ⟨-,-,-,-,-,filled⟩ := Suite.validate_eq_ok.mp valid
    exact fun c member => filled c.1 (List.mem_map_of_mem member)
  have timing : s.runConfig options = .ok config := timing
  -- All three parts compare two suites of the same shell at places where they have the same test case.
  refine Suite.reports_of_valid valid timing fun report reported => ⟨reported.length,?_,?_,?_⟩
  · intro i c here
    have probes := filled c (List.mem_of_getElem? here)
    refine Suite.reports_of_valid (Suite.validate_ofCases valid (by simpa using probes)) timing fun alone single => ?_
    obtain ⟨u,only⟩ := List.length_eq_one_iff.mp single.length
    have first : cases[i]? = [c][0]? := here
    have same := reported.same single first
    rw [only,List.getElem?_cons_zero,Option.map_some,Option.map_eq_some_iff] at same
    obtain ⟨t,is,equal⟩ := same
    exact ⟨t,u,is,only,equal⟩
  · intro e
    have order : (List.ofFn fun i => cases[e i]).Perm cases := by
      have moved := e.ofFn_comp_perm cases.get
      rwa [List.ofFn_get] at moved
    have probes : ∀ c ∈ List.ofFn fun i => cases[e i], c.1.probes ≠ [] := fun c member => filled c (order.mem_iff.mp member)
    refine Suite.reports_of_valid (Suite.validate_ofCases valid probes) timing fun permuted moved => ⟨fun i => ?_,?_⟩
    · refine moved.same reported ?_
      simp
    · exact moved.totals reported order
  · intro k c nonempty
    have probes : ∀ d ∈ cases.set k c, d.1.probes ≠ [] := by
      intro d member
      rcases List.mem_or_eq_of_mem_set member with old | rfl
      · exact filled d old
      · exact nonempty
    refine Suite.reports_of_valid (Suite.validate_ofCases valid probes) timing fun changed set i other => ?_
    exact set.same reported (List.getElem?_set_ne other.symm)

/-! ## A host with a queue -/

/-- The openings that are left, and the time, which passes with every question for it. -/
structure Queue (σ : Type) where
  left : List (Opening σ)
  time : Nat := 0

/-- The host that opens the sessions of a queue, and has no fixture. -/
def queueHost : Host (Queue σ) σ where
  setup := return .ok ()
  teardown := return .ok ()
  openSession shell config := fun q =>
    match q.left with
    | [] => (.error (.plain .io "no session is left"), q)
    | o :: rest => ((o shell config).map (Session.named ⟨q.time⟩), { q with left := rest })
  release _ := return ()
  clock := fun q => (q.time, { q with time := q.time + 1 })
  newId := fun q => (⟨q.time⟩, q)

omit [Transport σ] in
theorem queueHost_hands : queueHost.Hands (Queue.left (σ := σ)) where
  setup _ := ⟨rfl,rfl⟩
  teardown _ := ⟨rfl,rfl⟩
  openSession shell config w o rest is := by
    obtain ⟨left,time⟩ := w
    cases is
    exact ⟨⟨⟨time⟩,rfl⟩,rfl⟩
  release _ _ := rfl
  clock _ := rfl
  newId _ := rfl

/-- The opening of a session on a terminal with a script. -/
def scriptedOpening (replies : List Reply) : Opening Scripted := fun shell config =>
  (Session.ofShell default shell config).map fun session => (session, { replies })

/-- Three test cases: one without a session, one on a terminal that is silent, one on a terminal that is closed. -/
def mixedCases : List (TestCase × Opening Scripted) :=
  [(⟨"refused",[⟨"SEL",.immediate "ECT "⟩]⟩, fun _ _ => .error (.plain .io "no terminal")),
    (⟨"silent",[⟨"SEL",.immediate "ECT "⟩,⟨"DROP ",.noChoices⟩]⟩, scriptedOpening []),
    (⟨"closed",[⟨"SEL",.immediate "ECT "⟩]⟩, scriptedOpening [.closed])]

/-- The suite in which they are run. -/
def mixedSuite : Suite where
  name := "mixed"
  shell := fixtureShellConfig "fake" "ks"
  tests := []

theorem mixedSuite_valid : (mixedSuite.ofCases mixedCases).validate = .ok () := by
  refine Suite.validate_eq_ok.mpr ⟨rfl,by decide,by decide,?_,nofun,by decide⟩
  exact Prompt.ofTemplate_fixture.mpr (by decide)

theorem mixedSuite_accepted : ¬∃ e, (mixedSuite.ofCases mixedCases).Rejects {} e := by
  have timing : (mixedSuite.ofCases mixedCases).runConfig {} = .ok {} := by rfl
  rintro ⟨e,invalid | ⟨-,fails⟩⟩
  · rw [mixedSuite_valid] at invalid
    cases invalid
  · rw [timing] at fails
    cases fails

/-- The second test case has the same report in the suite, after a refused session, as it has alone and later. -/
theorem mixedSuite_isolated : queueHost.Hands (Queue.left (σ := Scripted)) ∧
    ∃ report alone t u, (((mixedSuite.ofCases mixedCases).run queueHost {}).run ⟨⟨mixedCases.map (·.2),0⟩,[]⟩).1 = .ok report ∧
      (((mixedSuite.ofCases [mixedCases[1]]).run queueHost {}).run ⟨⟨[mixedCases[1].2],100⟩,[]⟩).1 = .ok alone ∧
      report.tests[1]? = some t ∧ alone.tests = [u] ∧ t.unstamped = u.unstamped := by
  obtain ⟨report,ran,-,single,-⟩ :=
    tests_isolated mixedSuite {} mixedCases mixedSuite_accepted _ queueHost Queue.left queueHost_hands ⟨_,0⟩ [] rfl
  obtain ⟨alone,ranAlone,t,u,is,only,same⟩ := single 1 _ rfl _ queueHost Queue.left queueHost_hands ⟨_,100⟩ [] rfl
  exact ⟨queueHost_hands,report,alone,t,u,ran,ranAlone,is,only,same⟩

end TabCompletion
