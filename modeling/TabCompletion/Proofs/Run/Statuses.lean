import TabCompletion.CommandLine.Output
import TabCompletion.Proofs.Run.Bracketing

/-!
# Statuses of a run

The status of a test case is folded from its probes, that of a suite from its test cases, and an error
of a session or of the fixture overrides both. `RunStatus.Truthful` says what a status means for the
probes below it, at either level: the folds keep it (`RunStatus.Truthful.max`), and
`run_report_truthful` says it of the report of every run, with its counts and its exit code.
-/
namespace TabCompletion

variable {ω σ : Type} [Transport σ]

/-- What a status says of probes, and of whether all else went well: it is passed if all is well and
    each probe passed, failed if all is well and each probe was classified but not each passed, and
    errored otherwise. -/
structure RunStatus.Truthful (status : RunStatus) (well : Prop) (probes : List ProbeReport) : Prop where
  passed : status = .passed ↔ well ∧ ∀ p ∈ probes, p.status = .passed
  failed : status = .failed ↔
    well ∧ (∀ p ∈ probes, p.status ≠ .errored ∧ p.status ≠ .skipped) ∧ ∃ p ∈ probes, p.status = .failed
  errored : status = .errored ↔ ¬well ∨ ∃ p ∈ probes, p.status = .errored ∨ p.status = .skipped

namespace RunStatus

variable {a b : RunStatus} {well other : Prop} {xs ys : List ProbeReport}

/-- What a failed status says follows from what the other two say. -/
theorem Truthful.of_passed_errored
    (passed : a = .passed ↔ well ∧ ∀ p ∈ xs, p.status = .passed)
    (errored : a = .errored ↔ ¬well ∨ ∃ p ∈ xs, p.status = .errored ∨ p.status = .skipped) :
    a.Truthful well xs where
  passed := passed
  errored := errored
  failed := by
    have neither : a = .failed ↔ a ≠ .passed ∧ a ≠ .errored := by cases a <;> simp
    rw [neither,ne_eq,ne_eq,passed,errored]
    constructor
    · rintro ⟨notAll,fine⟩
      have sound : well := by by_contra not; exact fine (.inl not)
      have classified : ∀ p ∈ xs, p.status ≠ .errored ∧ p.status ≠ .skipped := fun p member =>
        ⟨fun is => fine (.inr ⟨p,member,.inl is⟩),fun is => fine (.inr ⟨p,member,.inr is⟩)⟩
      refine ⟨sound,classified,?_⟩
      by_contra none
      refine notAll ⟨sound,fun p member => ?_⟩
      have notFailed : p.status ≠ .failed := fun is => none ⟨p,member,is⟩
      obtain ⟨notErrored,notSkipped⟩ := classified p member
      cases is : p.status <;> simp_all
    · rintro ⟨sound,classified,p,member,failed⟩
      refine ⟨fun ⟨_,all⟩ => ?_,?_⟩
      · rw [all p member] at failed; cases failed
      · rintro (not | ⟨q,inside,bad⟩)
        · exact not sound
        · obtain ⟨notErrored,notSkipped⟩ := classified q inside
          exact bad.elim notErrored notSkipped

/-- Nothing below is well. -/
theorem truthful_nil : RunStatus.passed.Truthful True [] := by
  refine .of_passed_errored ?_ ?_ <;> simp

/-- The stronger of two statuses says what both say. -/
theorem Truthful.max (first : a.Truthful well xs) (second : b.Truthful other ys) :
    (a.max b).Truthful (well ∧ other) (xs ++ ys) := by
  have passes : a.max b = .passed ↔ a = .passed ∧ b = .passed := by cases a <;> cases b <;> simp [RunStatus.max]
  have errs : a.max b = .errored ↔ a = .errored ∨ b = .errored := by cases a <;> cases b <;> simp [RunStatus.max]
  refine .of_passed_errored ?_ ?_
  · rw [passes,first.passed,second.passed,List.forall_mem_append]
    tauto
  · rw [errs,first.errored,second.errored]
    simp only [List.mem_append,or_and_right,exists_or,not_and_or]
    exact or_or_or_comm

/-- A status with an error besides is errored. -/
theorem Truthful.unless (error : Option HarnessError) (plain : a.Truthful well xs) :
    (if error.isSome then .errored else a).Truthful (error = none ∧ well) xs := by
  cases error with
  | none => simpa using plain
  | some e => refine .of_passed_errored ?_ ?_ <;> simp

/-- The status of probes is the strongest one of each probe on its own. -/
theorem ofProbes_cons (s : ProbeStatus) (rest : List ProbeStatus) :
    ofProbes (s :: rest) = (ofProbes [s]).max (ofProbes rest) := by
  cases later : ofProbes rest <;> cases s <;> simp [ofProbes,RunStatus.max,later]

/-- The status of probes says what they did. -/
theorem ofProbes_truthful (probes : List ProbeReport) :
    (ofProbes (probes.map (·.status))).Truthful True probes := by
  induction probes with
  | nil => exact truthful_nil
  | cons p rest ih =>
    have one : (ofProbes [p.status]).Truthful True [p] := by
      refine .of_passed_errored ?_ ?_ <;> cases is : p.status <;> simp [ofProbes,is]
    rw [List.map_cons,ofProbes_cons]
    simpa using one.max ih

end RunStatus

/-- The status of a test case says what its probes did, and whether its session started and stopped. -/
def TestReport.Truthful (t : TestReport) : Prop := t.status.Truthful (t.error = none) t.probes

theorem TestRun.truthful {shell : SessionConfig} {config : HarnessConfig} {test : TestCase}
    {asked : List (HostCall σ)} {report : TestReport} (run : TestRun shell config test asked report) :
    report.Truthful := by
  cases run with
  | refused e => refine .of_passed_errored ?_ ?_ <;> simp
  | @ran session terminal reports after error probes =>
    simpa [TestReport.Truthful,Run.testStatus] using (RunStatus.ofProbes_truthful reports).unless error

theorem TestsRun.truthful {shell : SessionConfig} {config : HarnessConfig} {tests : List TestCase}
    {asked : List (HostCall σ)} {reports : List TestReport}
    (run : TestsRun shell config tests asked reports) : ∀ t ∈ reports, t.Truthful := by
  induction run with
  | done => simp
  | next first later ih => exact List.forall_mem_cons.mpr ⟨first.truthful,ih⟩

/-- A fold of statuses that say what is below them says what is below all of them. -/
theorem foldl_max_truthful {tests : List TestReport} (truthful : ∀ t ∈ tests, t.Truthful)
    {a : RunStatus} {well : Prop} {xs : List ProbeReport} (before : a.Truthful well xs) :
    ((tests.map (·.status)).foldl RunStatus.max a).Truthful
      (well ∧ ∀ t ∈ tests, t.error = none) (xs ++ tests.flatMap (·.probes)) := by
  induction tests generalizing a well xs with
  | nil => simpa using before
  | cons t rest ih =>
    obtain ⟨first,later⟩ := List.forall_mem_cons.mp truthful
    simpa [and_assoc] using ih later (before.max first)

/-- The status of a suite says what all its probes did, and whether there was any error besides. -/
theorem suiteStatus_truthful {tests : List TestReport} (truthful : ∀ t ∈ tests, t.Truthful)
    (error : Option HarnessError) : (Run.suiteStatus tests error).Truthful
      (error = none ∧ ∀ t ∈ tests, t.error = none) (tests.flatMap (·.probes)) := by
  have folded := foldl_max_truthful truthful RunStatus.truthful_nil
  simpa [Run.suiteStatus,RunStatus.combine] using folded.unless error

/-- Each probe has one of the four statuses. -/
theorem countP_statuses (probes : List ProbeReport) :
    probes.countP (·.status == .passed) + probes.countP (·.status == .failed) +
      probes.countP (·.status == .errored) + probes.countP (·.status == .skipped) = probes.length := by
  induction probes with
  | nil => rfl
  | cons p rest ih =>
    simp only [List.countP_cons,List.length_cons]
    cases p.status <;> simp <;> omega

/-- Each probe of a test case has one report. -/
theorem TestRun.length_probes {shell : SessionConfig} {config : HarnessConfig} {test : TestCase}
    {asked : List (HostCall σ)} {report : TestReport} (run : TestRun shell config test asked report) :
    report.probes.length = test.probes.length := by
  obtain ⟨context,aligned,-⟩ := run.bracketed.aligned
  exact aligned.length_eq.symm

/-- Each probe of a suite has one report. -/
theorem TestsRun.length_probes {shell : SessionConfig} {config : HarnessConfig} {tests : List TestCase}
    {asked : List (HostCall σ)} {reports : List TestReport}
    (run : TestsRun shell config tests asked reports) :
    (reports.flatMap (·.probes)).length = tests.foldr (fun t n => t.probes.length + n) 0 := by
  induction run with
  | done => rfl
  | next first later ih => simp only [List.flatMap_cons,List.length_append,List.foldr_cons,first.length_probes,ih]

/-- What a report says is true: its counts are those of all probes of the suite, if the fixture could
    be set up, its statuses are truthful, and so is the exit code. -/
structure SuiteReport.Truthful (suite : Suite) (prepared : HarnessResult Unit) (r : SuiteReport) :
    Prop where
  counts : r.count .passed + r.count .failed + r.count .errored + r.count .skipped =
    match prepared with
    | .ok _ => suite.totalProbes
    | .error _ => 0
  status : r.status.Truthful (r.error = none ∧ ∀ t ∈ r.tests, t.error = none) (r.tests.flatMap (·.probes))
  tests : ∀ t ∈ r.tests, t.status.Truthful (t.error = none) t.probes
  exit : ∀ json, ((CommandLine.printReport json r).exit = 0 ↔ r.status = .passed) ∧
    ((CommandLine.printReport json r).exit = 1 ↔ r.status = .failed) ∧
    ((CommandLine.printReport json r).exit = 2 ↔ r.status = .errored)

theorem printReport_exit (r : SuiteReport) (json : Bool) :
    ((CommandLine.printReport json r).exit = 0 ↔ r.status = .passed) ∧
      ((CommandLine.printReport json r).exit = 1 ↔ r.status = .failed) ∧
      ((CommandLine.printReport json r).exit = 2 ↔ r.status = .errored) := by
  simp only [CommandLine.printReport]
  cases r.status <;> simp [CommandLine.exitCode]

theorem SuiteRun.truthful {suite : Suite} {config : HarnessConfig} {calls : List (HostCall σ)}
    {report : SuiteReport} (run : SuiteRun suite config calls report) :
    ∃ prepared, calls.head? = some (.setup prepared) ∧ report.Truthful suite prepared := by
  cases run with
  | unprepared e removed runId elapsed =>
    exact ⟨.error e,rfl,rfl,suiteStatus_truthful (by simp) (some e),by simp,printReport_exit _⟩
  | prepared tests removed error told runId elapsed =>
    refine ⟨.ok (),rfl,?_,suiteStatus_truthful tests.truthful error,tests.truthful,printReport_exit _⟩
    exact (countP_statuses _).trans tests.length_probes

/-- On every host the report of a run is true. -/
theorem run_report_truthful (s : Suite) (host : Host ω σ) (options : RunOptions) (w : ω)
    (journal : List RunEvent) :
    ∃ calls, (s.run host.watched options).run ⟨⟨w,[]⟩,journal⟩ =
        (((s.run host options).run ⟨w,journal⟩).1,
          ⟨⟨((s.run host options).run ⟨w,journal⟩).2.host,calls⟩,
            ((s.run host options).run ⟨w,journal⟩).2.journal⟩) ∧
      ∀ report, ((s.run host options).run ⟨w,journal⟩).1 = .ok report →
        ∃ prepared, calls.head? = some (.setup prepared) ∧ report.Truthful s prepared := by
  obtain ⟨calls,same,ran⟩ := s.run_watched host options w journal
  refine ⟨calls,same,fun report given => ?_⟩
  rw [given] at ran
  obtain ⟨config,-,-,run⟩ := ran
  exact run.truthful

end TabCompletion
