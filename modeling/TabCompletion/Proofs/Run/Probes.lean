import TabCompletion.Proofs.Run.Watched
import TabCompletion.Proofs.Session.CallDiscipline

/-!
# The probes of a test case

`ProbesRun` says which reports the probes of a test case have: one for each outcome until a fatal
error, skipped ones from there on. `TestRun` adds what the host of the run is asked for. Both hold of
every run (`runProbes_asks`, `runTest_asks`).
-/
namespace TabCompletion

open Run (abandons probeReport skipped)

variable {ω σ : Type} [Transport σ]

/-- What comes of a probe on a terminal, and the terminal after it. -/
def Session.answer (s : Session) (probe : ProbeCase) (t : σ) : HarnessResult ProbeVerdict × σ :=
  (s.tryCompletions probe.input probe.expect).run t

/-- The terminal after probes, whatever comes of them. -/
def Session.after (s : Session) (probes : List ProbeCase) (t : σ) : σ :=
  probes.foldl (fun t probe => (s.answer probe t).2) t

/-- The reports of probes on a terminal, and the terminal after them. -/
inductive ProbesRun (s : Session) : List ProbeCase → σ → List ProbeReport → σ → Prop where
  | done (t : σ) : ProbesRun s [] t [] t
  | goOn {probe : ProbeCase} {rest : List ProbeCase} {t t' : σ} {reports : List ProbeReport}
      (elapsed : Nat) (usable : abandons (s.answer probe t).1 = false)
      (more : ProbesRun s rest (s.answer probe t).2 reports t') :
      ProbesRun s (probe :: rest) t
        (probeReport s.context probe elapsed (s.answer probe t).1 :: reports) t'
  | abandon {probe : ProbeCase} (rest : List ProbeCase) {t : σ} (elapsed : Nat)
      (fatal : abandons (s.answer probe t).1 = true) :
      ProbesRun s (probe :: rest) t
        (probeReport s.context probe elapsed (s.answer probe t).1 :: rest.map (skipped s.context))
        (s.answer probe t).2

/-- What a host is asked for a test case, and the report of it. -/
inductive TestRun (shell : SessionConfig) (config : HarnessConfig) (test : TestCase) :
    List (HostCall σ) → TestReport → Prop where
  | refused (e : HarnessError) :
      TestRun shell config test [.openSession shell config (.error e)]
        ⟨test.name,none,.errored,test.probes.map (skipped shell.context),some e⟩
  | ran {session : Session} {terminal : σ} {reports : List ProbeReport} {after : Observed σ}
      (error : Option HarnessError) (probes : ProbesRun session test.probes ⟨terminal,[]⟩ reports after) :
      TestRun shell config test
        [.openSession shell config (.ok (session, terminal)),
          .release (after.exchanges.map (·.call) ++ [.shutdown session.config.teardownGrace])]
        ⟨test.name,some session.id,Run.testStatus reports error,reports,error⟩

/-- On an observed terminal a probe has the same outcome, and leaves the same terminal. -/
theorem Session.answer_observed (s : Session) (probe : ProbeCase) (t : Observed σ) :
    s.answer probe t.inner = ((s.answer probe t).1, (s.answer probe t).2.inner) := by
  obtain ⟨made,ran,-⟩ := s.tryCompletions_makes probe.input probe.expect t
  simp only [Session.answer]
  rw [ran]
  rfl

theorem Session.close_observed (s : Session) (t : Observed σ) :
    s.close.run t = ((s.close.run t.inner).1, ⟨(s.close.run t.inner).2,t.exchanges ++
      [⟨.shutdown s.config.teardownGrace,(s.close.run t.inner).1.map fun _ => []⟩]⟩) := rfl

/-- Running a probe asks nothing that is kept, and reports what comes of it. -/
theorem runProbe_asks (host : Host ω σ) (index : Nat) (s : Session) (probe : ProbeCase)
    (t : Observed σ) :
    Asks (Run.runProbe host.watched index s probe t) (Run.runProbe host index s probe t.inner)
      fun asked a b => asked = [] ∧ b = (a.1, a.2.1, a.2.2.inner) ∧ ∃ elapsed,
        a = (probeReport s.context probe elapsed (s.answer probe t).1,
          abandons (s.answer probe t).1, (s.answer probe t).2) := by
  unfold Run.runProbe
  refine Asks.pass_bind fun started => ?_
  have same := s.answer_observed probe t
  simp only [Session.answer] at same ⊢
  rw [same]
  refine Asks.pass_bind fun finished => Asks.note_bind (Asks.pure ?_)
  exact ⟨rfl,rfl,_,rfl⟩

/-- Running probes asks nothing that is kept, and reports what comes of them. -/
theorem runProbes_asks (host : Host ω σ) (index : Nat) (s : Session) (probes : List ProbeCase)
    (t : Observed σ) :
    Asks (Run.runProbes host.watched index s probes t) (Run.runProbes host index s probes t.inner)
      fun asked a b => asked = [] ∧ b = (a.1, a.2.inner) ∧ ProbesRun s probes t a.1 a.2 := by
  induction probes generalizing t with
  | nil => exact Asks.pure ⟨rfl,rfl,.done t⟩
  | cons probe rest ih =>
    unfold Run.runProbes
    refine (runProbe_asks host index s probe t).bind ?_
    rintro - - - ⟨rfl,rfl,elapsed,rfl⟩
    by_cases fatal : abandons (s.answer probe t).1 = true
    · simp only [fatal,if_true]
      exact Asks.pure ⟨rfl,rfl,.abandon rest elapsed fatal⟩
    · have usable : abandons (s.answer probe t).1 = false := by simpa using fatal
      simp only [usable,Bool.false_eq_true,if_false]
      refine (ih (s.answer probe t).2).bind ?_
      rintro - ⟨reports,after⟩ - ⟨rfl,rfl,more⟩
      exact Asks.pure ⟨rfl,rfl,.goOn elapsed usable more⟩

/-- Running a test case in a session gives its terminal back after one shutdown. -/
theorem runInSession_asks (host : Host ω σ) (shell : SessionConfig) (config : HarnessConfig) (index : Nat)
    (test : TestCase) (session : Session) (terminal : σ) :
    Asks (Run.runInSession host.watched index test session ⟨terminal,[]⟩)
      (Run.runInSession host index test session terminal) fun asked a b => b = a ∧
        TestRun shell config test (.openSession shell config (.ok (session, terminal)) :: asked) a := by
  unfold Run.runInSession
  refine (runProbes_asks host index session test.probes ⟨terminal,[]⟩).bind ?_
  rintro - ⟨reports,after⟩ - ⟨rfl,rfl,probes⟩
  refine Asks.note_bind ?_
  rw [session.close_observed]
  obtain ⟨closed,left⟩ := session.close.run after.inner
  dsimp only
  refine (Asks.keep (fun _ => .release _) id (host.release left)).bind ?_
  rintro - - - ⟨rfl,-⟩
  refine Asks.pure ⟨rfl,?_⟩
  simpa using TestRun.ran _ probes

/-- Running a test case asks for one session, and gives it back after one shutdown. -/
theorem runTest_asks (host : Host ω σ) (shell : SessionConfig) (config : HarnessConfig) (index : Nat)
    (test : TestCase) :
    Asks (Run.runTest host.watched shell config index test) (Run.runTest host shell config index test)
      fun asked a b => b = a ∧ TestRun shell config test asked a := by
  unfold Run.runTest
  refine Asks.note_bind (Asks.note_bind (Asks.keep_bind fun opened => ?_))
  cases opened with
  | error e =>
    simp only [Except.map,pure_bind]
    refine Asks.note_bind ?_
    exact Asks.pure ⟨rfl,.refused e⟩
  | ok opened =>
    obtain ⟨session,terminal⟩ := opened
    refine (runInSession_asks host shell config index test session terminal).bind ?_
    rintro asked report _ ⟨rfl,asks⟩
    refine Asks.note_bind ?_
    exact Asks.pure ⟨rfl,by simpa using asks⟩

end TabCompletion
