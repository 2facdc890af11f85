import TabCompletion.Proofs.Document.Expectations
import TabCompletion.Proofs.Document.Identifiers
import TabCompletion.Proofs.Document.Outcomes
import TabCompletion.Proofs.Document.Values
import TabCompletion.Report

/-!
# Reports as values

A report that is written as a value and read again is the same report (`report_roundTrip`), in whatever order the
fields of objects are kept in between. There are two exceptions: a context of an error that is null is as good as none
(`withoutNulls`), and the expectation that an empty text is inserted is written, but not read.
-/
namespace TabCompletion

theorem ErrorCode.reads_name (c : ErrorCode) : Reads ErrorCode.read (.str c.name) (.ok c) := by
  cases c <;> exact reads_choice rfl

namespace HarnessError

/-- The details of the error are a free-form value. -/
def Fits (e : HarnessError) : Prop := ∀ details ∈ e.context, details.Ordered

/-- An error that is made with details fits. -/
theorem withDetails_fits {details : List (String × Json)} (code : ErrorCode) (message : String)
    (each : ∀ f ∈ details, f.2.Ordered) : (withDetails code message details).Fits := by
  intro _ is
  cases is
  exact Json.table_ordered each

/-- The error without details that are null. -/
def withoutNull (e : HarnessError) : HarnessError :=
  match e.context with
  | some .null => { e with context := none }
  | _ => e

/-- What was read of an error when the fields in `seen` were. -/
def within (e : HarnessError) (seen : List String) : Fields where
  code := if "code" ∈ seen then some e.code else none
  message := if "message" ∈ seen then some e.message else none
  context := if "context" ∈ seen then e.withoutNull.context else none

theorem reads_context {e : HarnessError} {details : Json} (fits : e.Fits) (is : e.context = some details) :
    Reads (Node.readOption Node.readJson) details (.ok e.withoutNull.context) := by
  have free := reads_json (fits details is)
  -- Null details are read as if there were none, all others as they are.
  by_cases null : details = .null
  · subst null
    intro k same
    cases same
    simp [withoutNull,is,Node.ofJson,Node.readOption,Node.isAbsent]
  · have same : e.withoutNull.context = some details := by
      rw [withoutNull,is]
      cases details <;> first | exact is | exact absurd rfl null
    rw [same]
    exact reads_some null free

theorem filled {e : HarnessError} (fits : e.Fits) : record.Filled e.within
    ([("code", .str e.code.name),("message", .str e.message)] ++ Json.optional "context" e.context) where
  names := by decide
  listed := by
    rw [List.map_append]
    exact (List.Sublist.refl ["code","message"]).append (listed_optional _ _)
  start := rfl
  put := by
    intro f member seen k same
    simp only [List.mem_append,List.mem_cons,List.not_mem_nil,or_false,mem_optional] at member
    rcases member with (rfl | rfl) | ⟨details,is,rfl⟩
    · simp [record,e.code.reads_name k same,within]
    · simp [record,reads_string e.message k same,within]
    · simp [record,reads_context fits is k same,within]

theorem reads_toJson {e : HarnessError} (fits : e.Fits) : Reads HarnessError.read e.toJson (.ok e.withoutNull) := by
  refine (filled fits).reads fun seen all => ?_
  simp only [List.map_append,List.mem_append,mem_names_optional] at all
  obtain ⟨code,message,context⟩ := e
  rcases context with _ | context
  · simp [record,within,all,withoutNull,required,bind,Except.bind,pure,Except.pure]
  · cases context <;> simp [record,within,all,withoutNull,required,bind,Except.bind,pure,Except.pure]

/-- An error is never read as none. -/
theorem reads_given {e : HarnessError} (fits : e.Fits) :
    Reads (Node.readOption HarnessError.read) e.toJson (.ok (some e.withoutNull)) :=
  reads_some (by simp [toJson]) (reads_toJson fits)

end HarnessError

theorem ProbeStatus.reads_name (s : ProbeStatus) : Reads ProbeStatus.read (.str s.name) (.ok s) := by
  cases s <;> exact reads_choice rfl

theorem RunStatus.reads_name (s : RunStatus) : Reads RunStatus.read (.str s.name) (.ok s) := by
  cases s <;> exact reads_choice rfl

/-- The numbers fit their types, and the details of an error are a free-form value. -/
structure ProbeReport.Fits (r : ProbeReport) : Prop where
  outcome : ∀ o ∈ r.outcome, o.Fits
  error : ∀ e ∈ r.error, e.Fits
  elapsed : r.elapsed ≤ elapsedLimit

namespace ProbeReport

/-- The report without details of an error that are null. -/
def withoutNulls (r : ProbeReport) : ProbeReport := { r with error := r.error.map HarnessError.withoutNull }

/-- The field of the expectation. -/
def expectationField (r : ProbeReport) : String × Json := ("expectation", r.expectation.toJson)

/-- The fields after the expectation that are not left out. -/
def afterExpectation (r : ProbeReport) : List (String × Json) :=
  [("status", .str r.status.name)] ++ Json.optional "observed" (r.observed.map CompletionResult.toJson) ++
    Json.optional "outcome" (r.outcome.map MatchOutcome.toJson) ++
    Json.optional "error" (r.error.map HarnessError.toJson) ++ [("elapsed_ms", .nat r.elapsed)]

/-- What was read of a report when the fields in `seen` were. -/
def within (r : ProbeReport) (seen : List String) : Fields where
  input := if "input" ∈ seen then some r.input else none
  expectation := if "expectation" ∈ seen then some r.expectation else none
  status := if "status" ∈ seen then some r.status else none
  observed := if "observed" ∈ seen then r.observed else none
  outcome := if "outcome" ∈ seen then r.outcome else none
  error := if "error" ∈ seen then r.error.map HarnessError.withoutNull else none
  elapsed := if "elapsed_ms" ∈ seen then some r.elapsed else none

theorem filledAround {r : ProbeReport} (fits : r.Fits) :
    record.FilledAround r.within r.expectationField [("input", .str r.input)] r.afterExpectation where
  names := by decide
  listed := by
    simp only [afterExpectation,List.map_append,List.map_cons]
    exact ((((List.Sublist.refl ["input","expectation","status"]).append (listed_optional _ _)).append
      (listed_optional _ _)).append (listed_optional _ _)).append (List.Sublist.refl ["elapsed_ms"])
  start := rfl
  put := by
    intro f member
    simp only [afterExpectation,List.mem_append,List.mem_cons,List.not_mem_nil,or_false,mem_optional,
      Option.map_eq_some_iff] at member
    rcases member with rfl | (((rfl | ⟨_,⟨c,is,rfl⟩,rfl⟩) | ⟨_,⟨o,is,rfl⟩,rfl⟩) | ⟨_,⟨e,is,rfl⟩,rfl⟩) | rfl
    · refine ⟨fun p => { p with input := some r.input },fun p k same => ?_,fun seen => by simp [within]⟩
      simp [record,reads_string r.input k same]
    · refine ⟨fun p => { p with status := some r.status },fun p k same => ?_,fun seen => by simp [within]⟩
      simp [record,r.status.reads_name k same]
    · refine ⟨fun p => { p with observed := some c },fun p k same => ?_,fun seen => by simp [within,is]⟩
      have reads := reads_some (by cases c <;> simp [CompletionResult.toJson]) c.reads_toJson k same
      simp [record,reads]
    · refine ⟨fun p => { p with outcome := some o },fun p k same => ?_,fun seen => by simp [within,is]⟩
      have reads := reads_some (by cases o <;> simp [MatchOutcome.toJson]) (MatchOutcome.reads_toJson (fits.outcome o is)) k same
      simp [record,reads]
    · refine ⟨fun p => { p with error := some e.withoutNull },fun p k same => ?_,fun seen => by simp [within,is]⟩
      have reads := HarnessError.reads_given (fits.error e is) k same
      simp [record,reads]
    · refine ⟨fun p => { p with elapsed := some r.elapsed },fun p k same => ?_,fun seen => by simp [within]⟩
      simp [record,reads_nat fits.elapsed k same]

theorem within_all (r : ProbeReport) {seen : List String}
    (all : ∀ name, name ∈ seen ↔ name ∈ (("input", Json.str r.input) :: r.expectationField :: r.afterExpectation).map (·.1)) :
    r.within seen = ⟨r.input,r.expectation,r.status,r.observed,r.outcome,r.error.map HarnessError.withoutNull,r.elapsed⟩ := by
  simp only [afterExpectation,expectationField,List.map_append,List.mem_append,mem_names_optional,List.map_cons,
    List.map_nil,List.mem_cons,List.not_mem_nil,or_false] at all
  obtain ⟨input,expectation,status,observed,outcome,error,elapsed⟩ := r
  cases observed <;> cases outcome <;> cases error <;> simp [within,all]

theorem reads_toJson {r : ProbeReport} (fits : r.Fits) (nonempty : r.expectation ≠ .immediate "") :
    Reads record.read r.toJson (.ok r.withoutNulls) := by
  have expectation := Expectation.reads_toJson nonempty
  refine ((filledAround fits).filled fun seen k same => ?_).reads fun seen all => ?_
  · simp [record,expectationField,expectation k same,within]
  · rw [r.within_all all]
    rfl

theorem refuses_emptyImmediate {r : ProbeReport} (fits : r.Fits) (empty : r.expectation = .immediate "") :
    Reads record.read r.toJson (.error (.rule .emptyImmediate)) := by
  have expectation := Expectation.refuses_emptyImmediate
  rw [← empty] at expectation
  refine ((filledAround fits).refused fun p k same => ?_).reads
  simp [record,expectationField,expectation k same]

end ProbeReport

/-- The reports of the probes fit, and the details of an error are a free-form value. -/
structure TestReport.Fits (t : TestReport) : Prop where
  probes : ∀ p ∈ t.probes, p.Fits
  error : ∀ e ∈ t.error, e.Fits

namespace TestReport

/-- The report without details of errors that are null. -/
def withoutNulls (t : TestReport) : TestReport :=
  { t with probes := t.probes.map ProbeReport.withoutNulls, error := t.error.map HarnessError.withoutNull }

/-- The fields before those of the probes that are not left out. -/
def beforeProbes (t : TestReport) : List (String × Json) :=
  [("name", .str t.name)] ++ Json.optional "session_id" (t.sessionId.map fun id => .str id.display) ++
    [("status", .str t.status.name)]

/-- The field of the probes. -/
def probesField (t : TestReport) : String × Json := ("probes", .arr (t.probes.map ProbeReport.toJson))

/-- The fields after those of the probes that are not left out. -/
def afterProbes (t : TestReport) : List (String × Json) := Json.optional "error" (t.error.map HarnessError.toJson)

theorem toJson_eq (t : TestReport) : t.toJson = .obj (t.beforeProbes ++ t.probesField :: t.afterProbes) := by
  simp [toJson,beforeProbes,probesField,afterProbes]

/-- What was read of a report when the fields in `seen` were. -/
def within (t : TestReport) (seen : List String) : Fields where
  name := if "name" ∈ seen then some t.name else none
  sessionId := if "session_id" ∈ seen then t.sessionId else none
  status := if "status" ∈ seen then some t.status else none
  probes := if "probes" ∈ seen then some (t.probes.map ProbeReport.withoutNulls) else none
  error := if "error" ∈ seen then t.error.map HarnessError.withoutNull else none

theorem filledAround {t : TestReport} (fits : t.Fits) :
    record.FilledAround t.within t.probesField t.beforeProbes t.afterProbes where
  names := by decide
  listed := by
    simp only [beforeProbes,afterProbes,List.map_append,List.map_cons]
    exact (((List.Sublist.refl ["name"]).append (listed_optional _ _)).append (List.Sublist.refl ["status"])).append
      ((listed_optional _ _).cons_cons "probes")
  start := rfl
  put := by
    intro f member
    simp only [beforeProbes,afterProbes,List.mem_append,List.mem_cons,List.not_mem_nil,or_false,mem_optional,
      Option.map_eq_some_iff] at member
    rcases member with ((rfl | ⟨_,⟨id,is,rfl⟩,rfl⟩) | rfl) | ⟨_,⟨e,is,rfl⟩,rfl⟩
    · refine ⟨fun p => { p with name := some t.name },fun p k same => ?_,fun seen => by simp [within]⟩
      simp [record,reads_string t.name k same]
    · refine ⟨fun p => { p with sessionId := some id },fun p k same => ?_,fun seen => by simp [within,is]⟩
      have reads := reads_some (by simp) id.reads_display k same
      simp [record,reads]
    · refine ⟨fun p => { p with status := some t.status },fun p k same => ?_,fun seen => by simp [within]⟩
      simp [record,t.status.reads_name k same]
    · refine ⟨fun p => { p with error := some e.withoutNull },fun p k same => ?_,fun seen => by simp [within,is]⟩
      have reads := HarnessError.reads_given (fits.error e is) k same
      simp [record,reads]

theorem within_all (t : TestReport) {seen : List String}
    (all : ∀ name, name ∈ seen ↔ name ∈ (t.beforeProbes ++ t.probesField :: t.afterProbes).map (·.1)) :
    t.within seen = ⟨t.name,t.sessionId,t.status,t.probes.map ProbeReport.withoutNulls,
      t.error.map HarnessError.withoutNull⟩ := by
  simp only [beforeProbes,probesField,afterProbes,List.map_append,List.mem_append,mem_names_optional,List.map_cons,
    List.map_nil,List.mem_cons,List.not_mem_nil,or_false] at all
  obtain ⟨name,sessionId,status,probes,error⟩ := t
  cases sessionId <;> cases error <;> simp [within,all]

theorem reads_toJson {t : TestReport} (fits : t.Fits) (nonempty : ∀ p ∈ t.probes, p.expectation ≠ .immediate "") :
    Reads record.read t.toJson (.ok t.withoutNulls) := by
  have probes := reads_map_as fun p member => ProbeReport.reads_toJson (fits.probes p member) (nonempty p member)
  rw [toJson_eq]
  refine ((filledAround fits).filled fun seen k same => ?_).reads fun seen all => ?_
  · simp [record,probesField,probes k same,within]
  · rw [t.within_all all]
    rfl

theorem refuses_emptyImmediate {t : TestReport} (fits : t.Fits) (empty : ∃ p ∈ t.probes, p.expectation = .immediate "") :
    Reads record.read t.toJson (.error (.rule .emptyImmediate)) := by
  have probes := reads_map_refused (fun p member => ProbeReport.reads_toJson (fits.probes p member))
    (fun p member => ProbeReport.refuses_emptyImmediate (fits.probes p member)) empty
  rw [toJson_eq]
  refine ((filledAround fits).refused fun p k same => ?_).reads
  simp [record,probesField,probes k same]

end TestReport

/-! ## Suites -/

/-- The numbers fit their types, and the details of an error are a free-form value. -/
structure SuiteReport.Fits (r : SuiteReport) : Prop where
  version : r.version ≤ versionLimit
  tests : ∀ t ∈ r.tests, t.Fits
  error : ∀ e ∈ r.error, e.Fits
  elapsed : r.elapsed ≤ elapsedLimit

namespace SuiteReport

/-- The report without details of errors that are null. -/
def withoutNulls (r : SuiteReport) : SuiteReport :=
  { r with tests := r.tests.map TestReport.withoutNulls, error := r.error.map HarnessError.withoutNull }

/-- The fields before those of the test cases. -/
def beforeTests (r : SuiteReport) : List (String × Json) :=
  [("report_version", .nat r.version),("run_id", .str r.runId.display),("suite", .str r.suite),
    ("status", .str r.status.name)]

/-- The field of the test cases. -/
def testsField (r : SuiteReport) : String × Json := ("tests", .arr (r.tests.map TestReport.toJson))

/-- The fields after those of the test cases that are not left out. -/
def afterTests (r : SuiteReport) : List (String × Json) :=
  Json.optional "error" (r.error.map HarnessError.toJson) ++ [("elapsed_ms", .nat r.elapsed)]

/-- What was read of a report when the fields in `seen` were. -/
def within (r : SuiteReport) (seen : List String) : Fields where
  version := if "report_version" ∈ seen then some r.version else none
  runId := if "run_id" ∈ seen then some r.runId else none
  suite := if "suite" ∈ seen then some r.suite else none
  status := if "status" ∈ seen then some r.status else none
  tests := if "tests" ∈ seen then some (r.tests.map TestReport.withoutNulls) else none
  error := if "error" ∈ seen then r.error.map HarnessError.withoutNull else none
  elapsed := if "elapsed_ms" ∈ seen then some r.elapsed else none

theorem filledAround {r : SuiteReport} (fits : r.Fits) :
    record.FilledAround r.within r.testsField r.beforeTests r.afterTests where
  names := by decide
  listed := by
    simp only [beforeTests,afterTests,List.map_append,List.map_cons]
    exact (List.Sublist.refl ["report_version","run_id","suite","status"]).append
      (((listed_optional _ _).append (List.Sublist.refl ["elapsed_ms"])).cons_cons "tests")
  start := rfl
  put := by
    intro f member
    simp only [beforeTests,afterTests,List.mem_append,List.mem_cons,List.not_mem_nil,or_false,mem_optional,
      Option.map_eq_some_iff] at member
    rcases member with (rfl | rfl | rfl | rfl) | ⟨_,⟨e,is,rfl⟩,rfl⟩ | rfl
    · refine ⟨fun p => { p with version := some r.version },fun p k same => ?_,fun seen => by simp [within]⟩
      simp [record,reads_nat fits.version k same]
    · refine ⟨fun p => { p with runId := some r.runId },fun p k same => ?_,fun seen => by simp [within]⟩
      simp [record,r.runId.reads_display k same]
    · refine ⟨fun p => { p with suite := some r.suite },fun p k same => ?_,fun seen => by simp [within]⟩
      simp [record,reads_string r.suite k same]
    · refine ⟨fun p => { p with status := some r.status },fun p k same => ?_,fun seen => by simp [within]⟩
      simp [record,r.status.reads_name k same]
    · refine ⟨fun p => { p with error := some e.withoutNull },fun p k same => ?_,fun seen => by simp [within,is]⟩
      have reads := HarnessError.reads_given (fits.error e is) k same
      simp [record,reads]
    · refine ⟨fun p => { p with elapsed := some r.elapsed },fun p k same => ?_,fun seen => by simp [within]⟩
      simp [record,reads_nat fits.elapsed k same]

theorem within_all (r : SuiteReport) {seen : List String}
    (all : ∀ name, name ∈ seen ↔ name ∈ (r.beforeTests ++ r.testsField :: r.afterTests).map (·.1)) :
    r.within seen = ⟨r.version,r.runId,r.suite,r.status,r.tests.map TestReport.withoutNulls,
      r.error.map HarnessError.withoutNull,r.elapsed⟩ := by
  simp only [beforeTests,testsField,afterTests,List.map_append,List.mem_append,mem_names_optional,List.map_cons,
    List.map_nil,List.mem_cons,List.not_mem_nil,or_false] at all
  obtain ⟨version,runId,suite,status,tests,error,elapsed⟩ := r
  cases error <;> simp [within,all]

theorem reads_toJson {r : SuiteReport} (fits : r.Fits)
    (nonempty : ∀ t ∈ r.tests, ∀ p ∈ t.probes, p.expectation ≠ .immediate "") :
    Reads SuiteReport.read r.toJson (.ok r.withoutNulls) := by
  have tests := reads_map_as fun t member => TestReport.reads_toJson (fits.tests t member) (nonempty t member)
  refine ((filledAround fits).filled fun seen k same => ?_).reads fun seen all => ?_
  · simp [record,testsField,tests k same,within]
  · rw [r.within_all all]
    rfl

theorem refuses_emptyImmediate {r : SuiteReport} (fits : r.Fits)
    (empty : ∃ t ∈ r.tests, ∃ p ∈ t.probes, p.expectation = .immediate "") :
    Reads SuiteReport.read r.toJson (.error (.rule .emptyImmediate)) := by
  have tests := reads_map_refused
    (fun t member others => TestReport.reads_toJson (fits.tests t member) fun p among is => others ⟨p,among,is⟩)
    (fun t member => TestReport.refuses_emptyImmediate (fits.tests t member)) empty
  refine ((filledAround fits).refused fun p k same => ?_).reads
  simp [record,testsField,tests k same]

/-- All errors in a report: of the suite, of its test cases, and of their probes. -/
def errors (r : SuiteReport) : List HarnessError :=
  r.error.toList ++ r.tests.flatMap fun t => t.error.toList ++ t.probes.filterMap (·.error)

end SuiteReport

/-! ## Details that are null -/

section Nulls

theorem HarnessError.withoutNull_eq {e : HarnessError} (there : e.context ≠ some .null) : e.withoutNull = e := by
  rw [withoutNull]
  split
  · next is => exact absurd is there
  · rfl

theorem map_withoutNull_eq {error : Option HarnessError} (there : ∀ e ∈ error, e.context ≠ some .null) :
    error.map HarnessError.withoutNull = error := by
  cases error with
  | none => rfl
  | some e => exact congrArg some (HarnessError.withoutNull_eq (there e rfl))

theorem ProbeReport.withoutNulls_eq {r : ProbeReport} (there : ∀ e ∈ r.error, e.context ≠ some .null) :
    r.withoutNulls = r := by
  rw [withoutNulls,map_withoutNull_eq there]

theorem TestReport.withoutNulls_eq {t : TestReport} (there : ∀ e ∈ t.error, e.context ≠ some .null)
    (probes : ∀ p ∈ t.probes, ∀ e ∈ p.error, e.context ≠ some .null) : t.withoutNulls = t := by
  have same : ∀ p ∈ t.probes, p.withoutNulls = p := fun p member => ProbeReport.withoutNulls_eq (probes p member)
  rw [withoutNulls,map_withoutNull_eq there,List.map_congr_left same,List.map_id']

/-- Without null details there are none to leave out. -/
theorem SuiteReport.withoutNulls_eq {r : SuiteReport} (there : ∀ e ∈ r.errors, e.context ≠ some .null) :
    r.withoutNulls = r := by
  simp only [errors,List.mem_append,Option.mem_toList,List.mem_flatMap,List.mem_filterMap] at there
  have tests : ∀ t ∈ r.tests, t.withoutNulls = t := fun t member =>
    TestReport.withoutNulls_eq (fun e is => there e (.inr ⟨t,member,.inl is⟩))
      fun p among e is => there e (.inr ⟨t,member,.inr ⟨p,among,is⟩⟩)
  rw [withoutNulls,map_withoutNull_eq fun e is => there e (.inl is),List.map_congr_left tests,List.map_id']

end Nulls

/-- A report that is written as a value and read again is the same report, whatever order the fields of objects are
    kept in, if it has no expectation that an empty text is inserted and no error with null details. -/
theorem report_roundTrip (r : SuiteReport) (fits : r.Fits)
    (nonempty : ∀ t ∈ r.tests, ∀ p ∈ t.probes, p.expectation ≠ .immediate "")
    (there : ∀ e ∈ r.errors, e.context ≠ some .null) (j : Json) (same : r.toJson.Same j) :
    SuiteReport.ofJson j = .ok r := by
  have reads := SuiteReport.reads_toJson fits nonempty j same
  rwa [SuiteReport.withoutNulls_eq there] at reads

/-- A report with a probe of each status, a result and a mismatch in one another, and errors with and without details. -/
def mixedReport : SuiteReport where
  version := reportVersion
  runId := default
  suite := "mixed"
  status := .errored
  elapsed := 12
  error := some (.plain .config "fixture teardown failed")
  tests := [⟨"one",some default,.errored,[
    { input := "SEL", expectation := .immediate "ECT", status := .passed, elapsed := 3,
      observed := some (.immediate "ECT"), outcome := some .pass },
    { input := "DROP ", expectation := .choices (TokenSet.ofList ["TABLE"]) true, status := .failed, elapsed := 4,
      observed := some .empty, outcome := some (.fail ⟨"expected choices",.wrongKind "choices" .empty⟩) },
    { input := "", expectation := .noChoices, status := .failed, elapsed := 5,
      observed := some (.listed (TokenSet.ofList ["a"]) ["a"]),
      outcome := some (.fail ⟨"tokens differ",.tokens 1 0 .empty (TokenSet.ofList ["a"]) (TokenSet.ofList ["a"]) .empty⟩) },
    { input := "x", expectation := .lines ["y"] false, status := .errored, elapsed := 0,
      error := some (.terminalParse "not text" "invalid byte" 7) },
    { input := "z", expectation := .noChoices, status := .skipped, elapsed := 0 }],none⟩]

theorem mixedReport_fits : mixedReport.Fits := by
  have source : (HarnessError.terminalParse "not text" "invalid byte" 7).Fits :=
    HarnessError.withDetails_fits .terminalParse "not text"
      (List.forall_mem_cons.mpr ⟨.str _,List.forall_mem_singleton.mpr (.int _)⟩)
  have probes : ∀ t ∈ mixedReport.tests, t.error = none ∧ ∀ p ∈ t.probes, (∀ o ∈ p.outcome, o.Fits) ∧
      (∀ e ∈ p.error, e = .terminalParse "not text" "invalid byte" 7) ∧ p.elapsed ≤ elapsedLimit := by
    simp [mixedReport,MatchOutcome.Fits,MismatchDetail.Fits,MismatchDetail.sizeLimit,elapsedLimit]
  refine ⟨by decide,fun t among => ?_,fun e is => ?_,by decide⟩
  · obtain ⟨noError,each⟩ := probes t among
    refine ⟨fun p member => ?_,fun e is => ?_⟩
    · obtain ⟨outcome,error,elapsed⟩ := each p member
      exact ⟨outcome,fun e is => error e is ▸ source,elapsed⟩
    · rw [noError] at is
      cases is
  · cases is
    intro _ is
    cases is

theorem mixedReport_roundTrip : mixedReport.Fits ∧
    SuiteReport.ofJson (.obj (mixedReport.beforeTests ++ mixedReport.testsField :: mixedReport.afterTests).reverse) =
      .ok mixedReport := by
  have reversed : mixedReport.toJson.Same
      (.obj (mixedReport.beforeTests ++ mixedReport.testsField :: mixedReport.afterTests).reverse) :=
    .obj rfl (List.forall₂_same.mpr fun j _ => .refl j) (List.reverse_perm _).symm
  have nonempty : ∀ t ∈ mixedReport.tests, ∀ p ∈ t.probes, p.expectation ≠ .immediate "" := by
    simp [mixedReport]
  have there : ∀ e ∈ mixedReport.errors, e.context ≠ some .null := by
    simp [SuiteReport.errors,mixedReport,HarnessError.plain,HarnessError.terminalParse,HarnessError.withDetails,Json.table]
  exact ⟨mixedReport_fits,report_roundTrip _ mixedReport_fits nonempty there _ reversed⟩

end TabCompletion
