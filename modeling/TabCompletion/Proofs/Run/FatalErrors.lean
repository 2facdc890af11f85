import TabCompletion.Proofs.Run.Probes

/-!
# Fatal errors

A session is not used any more once a probe ended with a fatal error. `SessionUse` says how the
reports of a test case are split there and which calls the terminal saw, and `ProbeReport.WellFormed`
which fields a report has with its status. `runTest_ends_with_fatal_error` says both of every test
case on every host.
-/
namespace TabCompletion

open Run (abandons probeReport skipped)

variable {ω σ : Type} [Transport σ]

namespace ProbeReport

/-- The fields of a report are those of its status. -/
def WellFormed (r : ProbeReport) : Prop :=
  match r.status with
  | .passed => (∃ observed, r.observed = some observed) ∧ r.outcome = some .pass ∧ r.error = none
  | .failed =>
    (∃ observed, r.observed = some observed) ∧ (∃ mismatch, r.outcome = some (.fail mismatch)) ∧
      r.error = none
  | .errored => r.observed = none ∧ r.outcome = none ∧ ∃ e, r.error = some e
  | .skipped => r.observed = none ∧ r.outcome = none ∧ r.error = none

/-- The session may be used after the probe. -/
def Usable (r : ProbeReport) : Prop :=
  r.status = .passed ∨ r.status = .failed ∨
    r.status = .errored ∧ ∃ e, r.error = some e ∧ e.code.isFatal = false

/-- The session must not be used after the probe. -/
def Fatal (r : ProbeReport) : Prop :=
  r.status = .errored ∧ ∃ e, r.error = some e ∧ e.code.isFatal = true

end ProbeReport

variable {context : Option String} {probe : ProbeCase} {elapsed : Nat} {r : HarnessResult ProbeVerdict}

theorem skipped_wellFormed (context : Option String) (probe : ProbeCase) :
    (skipped context probe).WellFormed := ⟨rfl,rfl,rfl⟩

theorem probeReport_wellFormed (context : Option String) (probe : ProbeCase) (elapsed : Nat)
    (r : HarnessResult ProbeVerdict) : (probeReport context probe elapsed r).WellFormed := by
  rcases r with e | ⟨input,observed,expected,_ | mismatch⟩
  · exact ⟨rfl,rfl,e,rfl⟩
  · exact ⟨⟨observed,rfl⟩,rfl,rfl⟩
  · exact ⟨⟨observed,rfl⟩,⟨mismatch,rfl⟩,rfl⟩

theorem probeReport_executed (context : Option String) (probe : ProbeCase) (elapsed : Nat)
    (r : HarnessResult ProbeVerdict) : (probeReport context probe elapsed r).status ≠ .skipped := by
  rcases r with e | ⟨input,observed,expected,_ | mismatch⟩
  · exact ProbeStatus.noConfusion
  · exact ProbeStatus.noConfusion
  · exact ProbeStatus.noConfusion

theorem probeReport_usable (usable : abandons r = false) :
    (probeReport context probe elapsed r).Usable := by
  rcases r with e | ⟨input,observed,expected,_ | mismatch⟩
  · exact .inr (.inr ⟨rfl,e,rfl,usable⟩)
  · exact .inl rfl
  · exact .inr (.inl rfl)

theorem probeReport_fatal (fatal : abandons r = true) :
    (probeReport context probe elapsed r).Fatal := by
  cases r with
  | error e => exact ⟨rfl,e,rfl,fatal⟩
  | ok verdict => cases fatal

/-- How probes use their session from a terminal on, with the reports of those that are executed and of
    those that are left. -/
structure SessionUse (s : Session) (probes : List ProbeCase) (t : σ) (executed left : List ProbeReport)
    (after : σ) : Prop where
  /-- Every probe is executed or left. -/
  all : executed.length + left.length = probes.length
  /-- Each executed probe is reported as it was answered, on the terminal that those before it left. -/
  answered : ∀ i (inside : i < executed.length), ∃ probe elapsed, probes[i]? = some probe ∧
    executed[i] = probeReport s.context probe elapsed (s.answer probe (s.after (probes.take i) t)).1
  notSkipped : ∀ r ∈ executed, r.status ≠ .skipped
  allSkipped : ∀ r ∈ left, r.status = .skipped
  /-- No executed probe but the last one can be fatal. -/
  usable : ∀ r ∈ executed.dropLast, r.Usable
  /-- Probes are only left after a fatal error. -/
  fatal : left ≠ [] → ∃ last, executed.getLast? = some last ∧ last.Fatal
  /-- The terminal is as the executed probes left it. -/
  untouched : after = s.after (probes.take executed.length) t

theorem SessionUse.goOn {s : Session} {probes : List ProbeCase} {t after : σ}
    {executed left : List ProbeReport} (elapsed : Nat) (usable : abandons (s.answer probe t).1 = false)
    (more : SessionUse s probes (s.answer probe t).2 executed left after) :
    SessionUse s (probe :: probes) t
      (probeReport s.context probe elapsed (s.answer probe t).1 :: executed) left after where
  all := by
    have all := more.all
    simp only [List.length_cons]; omega
  answered := by
    rintro (_ | i) inside
    · exact ⟨probe,elapsed,rfl,rfl⟩
    · exact more.answered i (by simpa using inside)
  notSkipped := by
    intro r member
    rcases List.mem_cons.mp member with rfl | later
    · exact probeReport_executed _ _ _ _
    · exact more.notSkipped r later
  allSkipped := more.allSkipped
  usable := by
    intro r member
    cases executed with
    | nil => simp at member
    | cons next rest =>
      rw [List.dropLast_cons_of_ne_nil (by simp),List.mem_cons] at member
      rcases member with rfl | later
      · exact probeReport_usable usable
      · exact more.usable r later
  fatal := by
    intro nonempty
    obtain ⟨last,isLast,fatal⟩ := more.fatal nonempty
    exact ⟨last,by rw [List.getLast?_cons,isLast]; rfl,fatal⟩
  untouched := more.untouched

/-- A run of probes is split where its session is abandoned. -/
theorem ProbesRun.split {s : Session} {probes : List ProbeCase} {t after : σ}
    {reports : List ProbeReport} (run : ProbesRun s probes t reports after) :
    ∃ executed left, reports = executed ++ left ∧ SessionUse s probes t executed left after := by
  induction run with
  | done t =>
    refine ⟨[],[],rfl,?_⟩
    constructor <;> simp [Session.after]
  | goOn elapsed usable more ih =>
    obtain ⟨executed,left,rfl,use⟩ := ih
    exact ⟨_ :: executed,left,rfl,use.goOn elapsed usable⟩
  | @abandon probe rest t elapsed fatal =>
    refine ⟨[_],rest.map (skipped s.context),rfl,?_⟩
    constructor
    · simp [Nat.add_comm]
    · intro i inside
      obtain rfl : i = 0 := by simpa using inside
      exact ⟨probe,elapsed,rfl,rfl⟩
    · simpa using probeReport_executed _ _ _ _
    · simp [skipped]
    · simp
    · exact fun _ => ⟨_,rfl,probeReport_fatal fatal⟩
    · rfl

theorem ProbesRun.wellFormed {s : Session} {probes : List ProbeCase} {t after : σ}
    {reports : List ProbeReport} (run : ProbesRun s probes t reports after) :
    ∀ r ∈ reports, r.WellFormed := by
  induction run with
  | done t => simp
  | goOn elapsed usable more ih =>
    exact List.forall_mem_cons.mpr ⟨probeReport_wellFormed _ _ _ _,ih⟩
  | abandon rest elapsed fatal =>
    refine List.forall_mem_cons.mpr ⟨probeReport_wellFormed _ _ _ _,?_⟩
    exact List.forall_mem_map.mpr fun probe _ => skipped_wellFormed _ probe

/-! ## The calls of a test case -/

/-- Probes do not stop the shell. -/
theorem Session.after_goesOn (s : Session) (probes : List ProbeCase) (t : Observed σ) :
    ∃ made, (s.after probes t).exchanges = t.exchanges ++ made ∧
      ∀ x ∈ made, x.call.isShutdown = false := by
  induction probes generalizing t with
  | nil => exact ⟨[],by simp [Session.after],by simp⟩
  | cons probe rest ih =>
    obtain ⟨first,ran,disciplined⟩ := s.tryCompletions_makes probe.input probe.expect t
    obtain ⟨more,seen,goesOn⟩ := ih (s.answer probe t).2
    have answered : (s.answer probe t).2.exchanges = t.exchanges ++ first := by
      simp only [Session.answer]; rw [ran]
    refine ⟨first ++ more,?_,?_⟩
    · rw [answered,List.append_assoc] at seen
      exact seen
    · intro x member
      rcases List.mem_append.mp member with earlier | later
      · exact disciplined.goesOn x earlier
      · exact goesOn x later

/-- What a host is asked for a test case, and the reports of its probes. -/
inductive SessionCalls (shell : SessionConfig) (config : HarnessConfig) (test : TestCase) :
    List (HostCall σ) → List ProbeReport → Prop where
  /-- Without a session nothing is executed. -/
  | unopened (e : HarnessError) (reports : List ProbeReport) (all : reports.length = test.probes.length)
      (allSkipped : ∀ r ∈ reports, r.status = .skipped) :
      SessionCalls shell config test [.openSession shell config (.error e)] reports
  /-- After the executed probes the only call is the one that stops the shell. -/
  | opened (session : Session) (terminal : σ) (executed left : List ProbeReport) (after : Observed σ)
      (use : SessionUse session test.probes ⟨terminal,[]⟩ executed left after)
      (goesOn : ∀ x ∈ after.exchanges, x.call.isShutdown = false) :
      SessionCalls shell config test
        [.openSession shell config (.ok (session, terminal)),
          .release (after.exchanges.map (·.call) ++ [.shutdown session.config.teardownGrace])]
        (executed ++ left)

theorem TestRun.sessionCalls {shell : SessionConfig} {config : HarnessConfig} {test : TestCase}
    {asked : List (HostCall σ)} {report : TestReport} (run : TestRun shell config test asked report) :
    SessionCalls shell config test asked report.probes := by
  cases run with
  | refused e => exact .unopened e _ (by simp) (by simp [skipped])
  | @ran session terminal reports after error probes =>
    obtain ⟨executed,left,rfl,use⟩ := probes.split
    obtain ⟨made,seen,goesOn⟩ := session.after_goesOn (test.probes.take executed.length) ⟨terminal,[]⟩
    refine .opened session terminal executed left after use ?_
    rw [use.untouched,seen]
    exact goesOn

theorem TestRun.wellFormed {shell : SessionConfig} {config : HarnessConfig} {test : TestCase}
    {asked : List (HostCall σ)} {report : TestReport} (run : TestRun shell config test asked report) :
    ∀ r ∈ report.probes, r.WellFormed := by
  cases run with
  | refused e => exact List.forall_mem_map.mpr fun probe _ => skipped_wellFormed _ probe
  | ran error probes => exact probes.wellFormed

/-- On every host a test case executes probes until one ends with a fatal error, skips the rest, and
    does nothing more to the terminal than to stop its shell. Each report has the fields of its
    status. -/
theorem runTest_ends_with_fatal_error (host : Host ω σ) (shell : SessionConfig)
    (config : HarnessConfig) (index : Nat) (test : TestCase) (w : ω) (journal : List RunEvent) :
    ∃ asked report, (Run.runTest host.watched shell config index test).run ⟨⟨w,[]⟩,journal⟩ =
        (report,
          ⟨⟨((Run.runTest host shell config index test).run ⟨w,journal⟩).2.host,asked⟩,
            ((Run.runTest host shell config index test).run ⟨w,journal⟩).2.journal⟩) ∧
      report = ((Run.runTest host shell config index test).run ⟨w,journal⟩).1 ∧
      SessionCalls shell config test asked report.probes ∧ ∀ r ∈ report.probes, r.WellFormed := by
  obtain ⟨asked,after,same,run⟩ := runTest_asks host shell config index test ⟨⟨w,[]⟩,journal⟩
  refine ⟨asked,_,?_,same.symm,run.sessionCalls,run.wellFormed⟩
  exact Prod.ext rfl after

end TabCompletion
