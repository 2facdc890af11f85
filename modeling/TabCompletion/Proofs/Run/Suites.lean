import TabCompletion.Proofs.Dialogue
import TabCompletion.Proofs.Run.Probes

/-!
# The test cases of a suite

`TestsRun` says what a host is asked for test cases in order, with the report of each, and `SuiteRun`
adds the fixture before and after them. A run of a suite that is not rejected is one of these on every
host (`Suite.run_watched`); a run of a rejected suite asks nothing and tells nothing (`Suite.run_of_rejects`).
-/
namespace TabCompletion

variable {ω σ : Type} [Transport σ]

/-- What a host is asked for test cases in order, and the report of each. -/
inductive TestsRun (shell : SessionConfig) (config : HarnessConfig) :
    List TestCase → List (HostCall σ) → List TestReport → Prop where
  | done : TestsRun shell config [] [] []
  | next {test : TestCase} {rest : List TestCase} {asked more : List (HostCall σ)} {report : TestReport}
      {reports : List TestReport} (first : TestRun shell config test asked report)
      (later : TestsRun shell config rest more reports) :
      TestsRun shell config (test :: rest) (asked ++ more) (report :: reports)

/-- What a host is asked in a run of a suite, and the report of the run. -/
inductive SuiteRun (suite : Suite) (config : HarnessConfig) : List (HostCall σ) → SuiteReport → Prop where
  /-- The fixture could not be set up: there are no test cases, but the fixture is removed. -/
  | unprepared (e : HarnessError) (removed : HarnessResult Unit) (runId : Identifier) (elapsed : Nat) :
      SuiteRun suite config [.setup (.error e),.teardown removed]
        ⟨reportVersion,runId,suite.name,Run.suiteStatus [] (some e),[],some e,elapsed⟩
  /-- The test cases are between the two fixture calls. Removing the fixture may fail. -/
  | prepared {between : List (HostCall σ)} {reports : List TestReport}
      (tests : TestsRun suite.shell config suite.tests between reports) (removed : HarnessResult Unit)
      (error : Option HarnessError) (told : ∀ e, error = some e ↔ removed = .error e)
      (runId : Identifier) (elapsed : Nat) :
      SuiteRun suite config (.setup (.ok ()) :: between ++ [.teardown removed])
        ⟨reportVersion,runId,suite.name,Run.suiteStatus reports error,reports,error,elapsed⟩

/-- Running test cases asks for one after the other. -/
theorem runTests_asks (host : Host ω σ) (shell : SessionConfig) (config : HarnessConfig) (index : Nat)
    (tests : List TestCase) :
    Asks (Run.runTests host.watched shell config index tests)
      (Run.runTests host shell config index tests) fun asked a b => b = a ∧
        TestsRun shell config tests asked a := by
  induction tests generalizing index with
  | nil => exact Asks.pure ⟨rfl,.done⟩
  | cons test rest ih =>
    unfold Run.runTests
    refine (runTest_asks host shell config index test).bind ?_
    rintro asked report _ ⟨rfl,run⟩
    refine (ih (index + 1)).bind ?_
    rintro more reports _ ⟨rfl,later⟩
    exact Asks.pure ⟨rfl,by simpa using TestsRun.next run later⟩

/-- Running a valid suite asks for the fixture first and last. -/
theorem runValid_asks (host : Host ω σ) (suite : Suite) (config : HarnessConfig) :
    Asks (Run.runValid host.watched suite config) (Run.runValid host suite config) fun asked a b =>
      b = a ∧ SuiteRun suite config asked a := by
  unfold Run.runValid
  refine Asks.pass_bind fun runId => Asks.pass_bind fun started => ?_
  refine Asks.note_bind (Asks.note_bind (Asks.keep_bind fun prepared => ?_))
  cases prepared with
  | error e =>
    refine Asks.bind (P := fun asked a b => b = a ∧ asked = [] ∧ a = []) (Asks.pure ⟨rfl,rfl,rfl⟩) ?_
    rintro - - - ⟨rfl,rfl,rfl⟩
    refine Asks.note_bind (Asks.keep_bind fun removed => Asks.pass_bind fun finished => ?_)
    exact Asks.note_bind (Asks.pure ⟨rfl,.unprepared e removed runId _⟩)
  | ok u =>
    refine (runTests_asks host suite.shell config 1 suite.tests).bind ?_
    rintro between reports _ ⟨rfl,run⟩
    refine Asks.note_bind (Asks.keep_bind fun removed => Asks.pass_bind fun finished => ?_)
    cases removed with
    | error e =>
      refine Asks.note_bind (Asks.pure ⟨rfl,?_⟩)
      simpa using SuiteRun.prepared run (.error e) (some e) (by simp) runId _
    | ok u =>
      refine Asks.note_bind (Asks.pure ⟨rfl,?_⟩)
      simpa using SuiteRun.prepared run (.ok u) none (by simp) runId _

/-- The suite is rejected with the error, or its timing is. -/
def Suite.Rejects (s : Suite) (options : RunOptions) (e : HarnessError) : Prop :=
  s.validate = .error e ∨ s.validate = .ok () ∧ s.runConfig options = .error e

/-- A run of a rejected suite is the error, and does nothing. -/
theorem Suite.run_of_rejects {s : Suite} {options : RunOptions} {e : HarnessError}
    (rejects : s.Rejects options e) (host : Host ω σ) : s.run host options = pure (.error e) := by
  have steps : (do s.validate; s.runConfig options : HarnessResult HarnessConfig) = .error e :=
    bind_eq_error.mpr (rejects.imp id fun ⟨valid,fails⟩ => ⟨(),valid,fails⟩)
  unfold Suite.run
  rw [steps]

/-- A run of a suite that is not rejected is the run of its test cases with its timing. -/
theorem Suite.run_of_accepts {s : Suite} {options : RunOptions} {config : HarnessConfig}
    (valid : s.validate = .ok ()) (timing : s.runConfig options = .ok config) (host : Host ω σ) :
    s.run host options = (do return .ok (← Run.runValid host s config)) := by
  have steps : (do s.validate; s.runConfig options : HarnessResult HarnessConfig) = .ok config :=
    bind_eq_ok.mpr ⟨(),valid,timing⟩
  unfold Suite.run
  rw [steps]

/-- A suite is rejected, or it has a timing. -/
theorem Suite.rejects_or_accepts (s : Suite) (options : RunOptions) :
    (∃ e, s.Rejects options e) ∨
      ∃ config, s.validate = .ok () ∧ s.runConfig options = .ok config := by
  cases valid : s.validate with
  | error e => exact .inl ⟨e,.inl valid⟩
  | ok u =>
    cases timing : s.runConfig options with
    | error e => exact .inl ⟨e,.inr ⟨valid,timing⟩⟩
    | ok config => exact .inr ⟨config,rfl,rfl⟩

/-- What came of a run that asked for the calls and left the host and the journal as they are now, where
    they were as given before. -/
def Suite.Ran (s : Suite) (options : RunOptions) (before : Running ω) (calls : List (HostCall σ))
    (after : Running ω) : HarnessResult SuiteReport → Prop
  | .error e => s.Rejects options e ∧ calls = [] ∧ after = before
  | .ok report => ∃ config, s.validate = .ok () ∧ s.runConfig options = .ok config ∧
      SuiteRun s config calls report

/-- On every host a run of a suite is that of its test cases, or it is rejected. Watching the host
    changes neither the report nor the host nor the journal. -/
theorem Suite.run_watched (s : Suite) (host : Host ω σ) (options : RunOptions) (w : ω)
    (journal : List RunEvent) :
    ∃ calls, (s.run host.watched options).run ⟨⟨w,[]⟩,journal⟩ =
        (((s.run host options).run ⟨w,journal⟩).1,
          ⟨⟨((s.run host options).run ⟨w,journal⟩).2.host,calls⟩,
            ((s.run host options).run ⟨w,journal⟩).2.journal⟩) ∧
      s.Ran options ⟨w,journal⟩ calls ((s.run host options).run ⟨w,journal⟩).2
        ((s.run host options).run ⟨w,journal⟩).1 := by
  obtain ⟨e,rejects⟩ | ⟨config,valid,timing⟩ := s.rejects_or_accepts options
  · rw [run_of_rejects rejects,run_of_rejects rejects]
    exact ⟨[],rfl,rejects,rfl,rfl⟩
  · rw [run_of_accepts valid timing,run_of_accepts valid timing]
    obtain ⟨calls,after,same,run⟩ := runValid_asks host s config ⟨⟨w,[]⟩,journal⟩
    refine ⟨calls,Prod.ext ?_ after,config,valid,timing,?_⟩
    · exact congrArg Except.ok same.symm
    · exact same ▸ run

end TabCompletion
