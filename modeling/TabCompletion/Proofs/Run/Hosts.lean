import Mathlib.Data.List.Forall2
import TabCompletion.Proofs.Run.Suites

/-!
# Runs on hosts that keep something

`Ensures` says what a part of a run does to its host. A host that serves items (`Host.Serves`) opens one session for
each of them in turn, and keeps what is said of the items that are left through all other questions. On such a host each
test case is reported by what was opened for its item (`runTest_ensures`), and so are all of a suite (`Suite.run_served`).
-/
namespace TabCompletion

open Run (abandons probeReport skipped)

variable {ω σ α β ι : Type}

/-- From hosts with `pre` on, a part of a run ends with a result and a host as `post` says. -/
def Ensures (pre : ω → Prop) (d : RunM ω α) (post : α → ω → Prop) : Prop :=
  ∀ r : Running ω, pre r.host → post (d.run r).1 (d.run r).2.host

namespace Ensures

variable {pre : ω → Prop} {post mid : α → ω → Prop} {last : β → ω → Prop} {d : RunM ω α} {f : α → RunM ω β}

theorem pure {a : α} (holds : ∀ w, pre w → post a w) : Ensures pre (Pure.pure a) post :=
  fun r here => holds r.host here

theorem bind (first : Ensures pre d mid) (rest : ∀ a, Ensures (mid a) (f a) last) : Ensures pre (d >>= f) last := by
  intro r here
  exact rest _ (d.run r).2 (first r here)

theorem ask {question : StateM ω α} (answers : ∀ w, pre w → post (question.run w).1 (question.run w).2) :
    Ensures pre (Run.ask question) post :=
  fun r here => answers r.host here

theorem assume {P : Prop} (ensures : P → Ensures pre d post) : Ensures (fun w => P ∧ pre w) d post :=
  fun r here => ensures here.1 r here.2

/-- What is only told leaves the host as it is. -/
theorem note_bind {e : RunEvent} {f : Unit → RunM ω β} (rest : Ensures pre (f ()) last) :
    Ensures pre (Run.note e >>= f) last :=
  fun r here => rest { r with journal := r.journal ++ [e] } here

/-- A question that keeps what holds may have any answer. -/
theorem ask_bind {question : StateM ω α} (keeps : ∀ w, pre w → pre (question.run w).2)
    (rest : ∀ a, Ensures pre (f a) last) : Ensures pre (Run.ask question >>= f) last := by
  have asks : Ensures pre (Run.ask question) fun _ => pre := ask keeps
  exact asks.bind rest

end Ensures

/-! ## Hosts that serve items -/

/-- For each item in turn the host opens a session with an outcome as `opened` says, while `holds` says what is so with
    the items that are left. The fixture has outcomes as `fixture` says, and no other question changes what holds. -/
structure Host.Serves (host : Host ω σ) (shell : SessionConfig) (config : HarnessConfig) (fixture : HarnessResult Unit → Prop)
    (opened : ι → HarnessResult (Session × σ) → Prop) (holds : List ι → ω → Prop) : Prop where
  setup : ∀ items w, holds items w → fixture (host.setup.run w).1 ∧ holds items (host.setup.run w).2
  teardown : ∀ items w, holds items w → fixture (host.teardown.run w).1 ∧ holds items (host.teardown.run w).2
  openSession : ∀ item items w, holds (item :: items) w → opened item ((host.openSession shell config).run w).1 ∧
    holds items ((host.openSession shell config).run w).2
  release : ∀ t items w, holds items w → holds items ((host.release t).run w).2
  clock : ∀ items w, holds items w → holds items (host.clock.run w).2
  newId : ∀ items w, holds items w → holds items (host.newId.run w).2

variable [Transport σ]

/-- Why a session was not closed, if it was not. -/
def Session.closeError (s : Session) (t : σ) : Option HarnessError :=
  match (s.close.run t).1 with
  | .ok _ => none
  | .error e => some e

/-- The report of a test case for which a session was opened or not. -/
inductive TestReported (shell : SessionConfig) (test : TestCase) : HarnessResult (Session × σ) → TestReport → Prop where
  | refused (e : HarnessError) :
      TestReported shell test (.error e) ⟨test.name,none,.errored,test.probes.map (skipped shell.context),some e⟩
  | ran {session : Session} {terminal after : σ} {reports : List ProbeReport}
      (probes : ProbesRun session test.probes terminal reports after) :
      TestReported shell test (.ok (session, terminal))
        ⟨test.name,some session.id,Run.testStatus reports (session.closeError after),reports,session.closeError after⟩

/-- The report of test cases, for each of which a session was opened as its item says. Without a fixture there are
    none, and there is an error in the report only if the fixture had one. -/
structure SuiteServed (shell : SessionConfig) (fixture : HarnessResult Unit → Prop)
    (opened : ι → HarnessResult (Session × σ) → Prop) (cases : List (TestCase × ι)) (report : SuiteReport) : Prop where
  tests : (∃ e, fixture (.error e) ∧ report.tests = []) ∨
    List.Forall₂ (fun c r => ∃ outcome, opened c.2 outcome ∧ TestReported shell c.1 outcome r) cases report.tests
  status : report.status = Run.suiteStatus report.tests report.error
  error : ∀ e, report.error = some e → fixture (.error e)

/-- The suite with these test cases, each beside an item. -/
def Suite.ofCases (s : Suite) (cases : List (TestCase × ι)) : Suite := { s with tests := cases.map (·.1) }

section Served

variable {host : Host ω σ} {shell : SessionConfig} {config : HarnessConfig} {fixture : HarnessResult Unit → Prop}
  {opened : ι → HarnessResult (Session × σ) → Prop} {holds : List ι → ω → Prop}
  (serves : host.Serves shell config fixture opened holds) {items : List ι}
include serves

theorem runProbe_ensures (index : Nat) (s : Session) (probe : ProbeCase) (t : σ) :
    Ensures (holds items) (Run.runProbe host index s probe t) fun a w => (∃ elapsed,
      a = (probeReport s.context probe elapsed (s.answer probe t).1, abandons (s.answer probe t).1, (s.answer probe t).2)) ∧
        holds items w := by
  unfold Run.runProbe
  refine Ensures.ask_bind (serves.clock items) fun started => Ensures.ask_bind (serves.clock items) fun finished => ?_
  exact Ensures.note_bind (Ensures.pure fun w is => ⟨⟨_,rfl⟩,is⟩)

theorem runProbes_ensures (index : Nat) (s : Session) (probes : List ProbeCase) (t : σ) :
    Ensures (holds items) (Run.runProbes host index s probes t) fun a w =>
      ProbesRun s probes t a.1 a.2 ∧ holds items w := by
  induction probes generalizing t with
  | nil => exact Ensures.pure fun w is => ⟨.done t,is⟩
  | cons probe rest ih =>
    unfold Run.runProbes
    refine (runProbe_ensures serves index s probe t).bind fun a => Ensures.assume ?_
    rintro ⟨elapsed,rfl⟩
    by_cases fatal : abandons (s.answer probe t).1 = true
    · simp only [fatal,if_true]
      exact Ensures.pure fun w is => ⟨.abandon rest elapsed fatal,is⟩
    · have usable : abandons (s.answer probe t).1 = false := by simpa using fatal
      simp only [usable,Bool.false_eq_true,if_false]
      refine (ih (s.answer probe t).2).bind fun a => Ensures.assume fun more => ?_
      exact Ensures.pure fun w is => ⟨.goOn elapsed usable more,is⟩

theorem runInSession_ensures (index : Nat) (test : TestCase) (session : Session) (t : σ) :
    Ensures (holds items) (Run.runInSession host index test session t) fun report w =>
      TestReported shell test (.ok (session, t)) report ∧ holds items w := by
  unfold Run.runInSession
  refine (runProbes_ensures serves index session test.probes t).bind fun a => Ensures.assume fun probes => ?_
  refine Ensures.note_bind (Ensures.ask_bind (serves.release _ items) fun _ => ?_)
  exact Ensures.pure fun w is => ⟨.ran probes,is⟩

/-- A test case is reported by what is opened for the first item that is left, and no other item is taken. -/
theorem runTest_ensures (index : Nat) (test : TestCase) (item : ι) :
    Ensures (holds (item :: items)) (Run.runTest host shell config index test) fun report w =>
      (∃ outcome, opened item outcome ∧ TestReported shell test outcome report) ∧ holds items w := by
  unfold Run.runTest
  refine Ensures.note_bind (Ensures.note_bind ?_)
  have opens : Ensures (holds (item :: items)) (Run.ask (host.openSession shell config)) fun outcome w =>
      opened item outcome ∧ holds items w := Ensures.ask (serves.openSession item items)
  refine opens.bind fun outcome => Ensures.assume fun is => ?_
  cases outcome with
  | error e =>
    simp only [pure_bind]
    exact Ensures.note_bind (Ensures.pure fun w left => ⟨⟨_,is,.refused e⟩,left⟩)
  | ok made =>
    obtain ⟨session,t⟩ := made
    refine (runInSession_ensures serves index test session t).bind fun report => Ensures.assume fun reported => ?_
    exact Ensures.note_bind (Ensures.pure fun w left => ⟨⟨_,is,reported⟩,left⟩)

theorem runTests_ensures (index : Nat) (cases : List (TestCase × ι)) :
    Ensures (holds (cases.map (·.2) ++ items)) (Run.runTests host shell config index (cases.map (·.1))) fun reports w =>
      List.Forall₂ (fun c r => ∃ outcome, opened c.2 outcome ∧ TestReported shell c.1 outcome r) cases reports ∧
        holds items w := by
  induction cases generalizing index with
  | nil => exact Ensures.pure fun w is => ⟨.nil,is⟩
  | cons c rest ih =>
    unfold Run.runTests
    refine (runTest_ensures serves index c.1 c.2).bind fun report => Ensures.assume fun first => ?_
    refine (ih (index + 1)).bind fun reports => Ensures.assume fun later => ?_
    exact Ensures.pure fun w is => ⟨.cons first later,is⟩

end Served

section Suites

variable {host : Host ω σ} {s : Suite} {config : HarnessConfig} {fixture : HarnessResult Unit → Prop}
  {opened : ι → HarnessResult (Session × σ) → Prop} {holds : List ι → ω → Prop}
  (serves : host.Serves s.shell config fixture opened holds) (cases : List (TestCase × ι))
include serves

theorem runValid_ensures : Ensures (holds (cases.map (·.2))) (Run.runValid host (s.ofCases cases) config) fun report _ =>
    SuiteServed s.shell fixture opened cases report := by
  unfold Run.runValid
  refine Ensures.ask_bind (serves.newId _) fun runId => Ensures.ask_bind (serves.clock _) fun started => ?_
  refine Ensures.note_bind (Ensures.note_bind ?_)
  have sets : Ensures (holds (cases.map (·.2))) (Run.ask host.setup) fun outcome w =>
      fixture outcome ∧ holds (cases.map (·.2)) w := Ensures.ask (serves.setup _)
  refine sets.bind fun prepared => Ensures.assume fun prepares => ?_
  -- Whether the fixture was set up or not, some items are left when it is removed.
  have removes : ∀ left : List ι, Ensures (holds left) (Run.ask host.teardown) fun outcome w =>
      fixture outcome ∧ holds left w := fun left => Ensures.ask (serves.teardown left)
  cases prepared with
  | error e =>
    simp only [pure_bind]
    refine Ensures.note_bind ((removes _).bind fun removed => Ensures.assume fun _ => ?_)
    refine Ensures.ask_bind (serves.clock _) fun finished => Ensures.note_bind (Ensures.pure fun w is => ?_)
    refine ⟨.inl ⟨e,prepares,rfl⟩,rfl,fun other is => ?_⟩
    cases is
    exact prepares
  | ok _ =>
    have tests : Ensures (holds (cases.map (·.2) ++ [])) _ _ := runTests_ensures serves 1 cases
    rw [List.append_nil] at tests
    refine tests.bind fun reports => Ensures.assume fun reported => ?_
    refine Ensures.note_bind ((removes _).bind fun removed => Ensures.assume fun removal => ?_)
    refine Ensures.ask_bind (serves.clock _) fun finished => Ensures.note_bind (Ensures.pure fun w is => ?_)
    refine ⟨.inr reported,rfl,fun e is => ?_⟩
    cases removed <;> cases is
    exact removal

/-- On a host that serves the items of its test cases, an accepted suite is run to a report. -/
theorem Suite.run_served {options : RunOptions} (valid : (s.ofCases cases).validate = .ok ())
    (timing : s.runConfig options = .ok config) {w : ω} (left : holds (cases.map (·.2)) w) (journal : List RunEvent) :
    ∃ report, (((s.ofCases cases).run host options).run ⟨w,journal⟩).1 = .ok report ∧
      SuiteServed s.shell fixture opened cases report := by
  have timed : (s.ofCases cases).runConfig options = .ok config := timing
  rw [Suite.run_of_accepts valid timed]
  exact ⟨_,rfl,runValid_ensures serves cases ⟨w,journal⟩ left⟩

end Suites

end TabCompletion
