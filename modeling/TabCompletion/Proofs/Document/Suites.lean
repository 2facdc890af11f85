import TabCompletion.Proofs.Document.Expectations
import TabCompletion.Proofs.Keys
import TabCompletion.Suite

/-!
# Suites as values

A suite that is written as a value and read again is the same suite (`suite_roundTrip`), in whatever order the
fields of objects are kept in between. There is one exception, the expectation that an empty text is
inserted: it is written, but not read.
-/
namespace TabCompletion

/-- The numbers of milliseconds are not too great for a setting. -/
def HarnessConfig.Fits (c : HarnessConfig) : Prop := ∀ f ∈ c.fields, f.2 ≤ limit

/-- What was read of settings when those in `seen` were. -/
def HarnessConfig.within (c : HarnessConfig) (seen : List String) : HarnessConfig where
  responseBudget := if "response_budget_ms" ∈ seen then c.responseBudget else 500
  resyncTimeout := if "resync_timeout_ms" ∈ seen then c.resyncTimeout else 1000
  resyncRetryTimeout := if "resync_retry_timeout_ms" ∈ seen then c.resyncRetryTimeout else 10000
  startupTimeout := if "startup_timeout_ms" ∈ seen then c.startupTimeout else 10000
  pollInterval := if "poll_interval_ms" ∈ seen then c.pollInterval else 5
  teardownGrace := if "teardown_grace_ms" ∈ seen then c.teardownGrace else 500

theorem HarnessConfig.filled {c : HarnessConfig} (fits : c.Fits) :
    record.Filled c.within (c.fields.map fun (name, n) => (name, .nat n)) where
  names := by decide
  listed := List.Sublist.refl _
  start := rfl
  put := by
    intro f member seen k same
    obtain ⟨⟨name,n⟩,among,rfl⟩ := List.mem_map.mp member
    have reads := reads_nat (fits _ among) k same
    simp only [fields,List.mem_cons,List.not_mem_nil,or_false,Prod.mk.injEq] at among
    rcases among with ⟨rfl,rfl⟩ | ⟨rfl,rfl⟩ | ⟨rfl,rfl⟩ | ⟨rfl,rfl⟩ | ⟨rfl,rfl⟩ | ⟨rfl,rfl⟩ <;>
      simp [record,reads,within]

theorem HarnessConfig.reads_toJson {c : HarnessConfig} (fits : c.Fits) : Reads HarnessConfig.read c.toJson (.ok c) := by
  refine (filled fits).reads fun seen all => ?_
  simp [record,within,all,fields]

/-- What was read of a fixture when the fields in `seen` were. -/
def FixtureSpec.within (f : FixtureSpec) (seen : List String) : FixtureSpec where
  setup := if "setup" ∈ seen then f.setup else []
  teardown := if "teardown" ∈ seen then f.teardown else []
  cwd := if "cwd" ∈ seen then f.cwd else none

theorem FixtureSpec.filled (f : FixtureSpec) : record.Filled f.within
    ([("setup", .strs f.setup),("teardown", .strs f.teardown)] ++ Json.optional "cwd" (f.cwd.map .str)) where
  names := by decide
  listed := by
    rw [List.map_append]
    exact (List.Sublist.refl ["setup","teardown"]).append (listed_optional _ _)
  start := rfl
  put := by
    intro g member seen k same
    simp only [List.mem_append,List.mem_cons,List.not_mem_nil,or_false,mem_optional,Option.map_eq_some_iff] at member
    rcases member with (rfl | rfl) | ⟨_,⟨path,is,rfl⟩,rfl⟩
    · simp [record,reads_strings f.setup k same,within]
    · simp [record,reads_strings f.teardown k same,within]
    · have reads := reads_some (by simp) (reads_string path) k same
      simp [record,reads,within,is]

theorem FixtureSpec.reads_toJson (f : FixtureSpec) : Reads FixtureSpec.read f.toJson (.ok f) := by
  refine f.filled.reads fun seen all => ?_
  simp only [List.map_append,List.mem_append,mem_names_optional] at all
  obtain ⟨setup,teardown,cwd⟩ := f
  cases cwd <;> simp [record,within,all]

def Json.pair (f : String × Json) : String × String :=
  match f.2 with
  | .str v => (f.1, v)
  | _ => (f.1, "")

theorem readPairs_texts {fields : List (String × Json)} (texts : ∀ f ∈ fields, ∃ v, f.2 = .str v) :
    Node.readPairs (fields.map Record.entry) = .ok (fields.map Json.pair) := by
  induction fields with
  | nil => rfl
  | cons f rest ih =>
    obtain ⟨⟨v,is⟩,others⟩ := List.forall_mem_cons.mp texts
    obtain ⟨name,value⟩ := f
    obtain rfl : value = .str v := is
    rw [List.map_cons,Record.entry,Node.readPairs]
    simp only [Node.readString,Node.ofJson,ih others]
    rfl

/-- In whatever order ascending variables are kept, they are read so that they are sorted again. -/
theorem reads_variables {vars : List (String × String)} (ascending : KeysAscend vars) {k : Json}
    (same : (variablesToJson vars).Same k) :
    ∃ pairs, (Node.ofJson k).readTable = .ok pairs ∧ sortedVariables pairs = vars := by
  obtain ⟨given,others,rfl,values,order⟩ := Json.same_obj same
  -- A text is in no other order than itself, so only the order of the fields may differ.
  have texts : given = vars.map fun p => (p.1, .str p.2) := by
    rw [List.forall₂_map_left_iff] at values
    rw [eq_comm,← List.forall₂_eq_eq_eq,List.forall₂_map_left_iff]
    refine values.imp fun p g ⟨name,value⟩ => Prod.ext name ?_
    generalize g.2 = text at value
    cases value
    rfl
  have pairs : given.map Json.pair = vars := by
    rw [texts,List.map_map]
    exact List.map_id _
  have all : ∀ f ∈ others, ∃ v, f.2 = .str v := by
    intro f member
    rw [← order.mem_iff,texts] at member
    obtain ⟨p,-,rfl⟩ := List.mem_map.mp member
    exact ⟨p.2,rfl⟩
  refine ⟨others.map Json.pair,?_,putAll_of_perm ascending ?_⟩
  · have entries : Node.ofFields others = others.map Record.entry := Node.ofFields_eq_map others
    rw [Node.ofJson,Node.readTable,entries,readPairs_texts all]
    rfl
  · rw [← pairs]
    exact order.map _

theorem EncodingMode.reads_name (m : EncodingMode) : Reads EncodingMode.read (.str m.name) (.ok m) := by
  cases m <;> exact reads_choice rfl

/-- The width fits its type, and the variables are those of a map. -/
structure SessionConfig.Fits (c : SessionConfig) : Prop where
  columns : c.columns ≤ columnLimit
  env : KeysAscend c.env

namespace SessionConfig

/-- The fields that are not left out, in declared order. -/
def written (c : SessionConfig) : List (String × Json) :=
  [("command", .str c.command),("args", .strs c.args)] ++ Json.optional "cwd" (c.cwd.map .str) ++
    Json.optional "env" (if c.env.isEmpty then none else some (variablesToJson c.env)) ++ [("prompt", .str c.prompt)] ++
    Json.optional "context" (c.context.map .str) ++ [("encoding", .str c.encoding.name),("columns", .nat c.columns)]

theorem toJson_eq (c : SessionConfig) : c.toJson = .obj c.written := by
  rw [toJson,written]
  cases c.env.isEmpty <;> rfl

/-- What was read of a shell when the fields in `seen` were. -/
def within (c : SessionConfig) (seen : List String) : Fields where
  command := if "command" ∈ seen then some c.command else none
  args := if "args" ∈ seen then c.args else []
  cwd := if "cwd" ∈ seen then c.cwd else none
  env := if "env" ∈ seen then c.env else []
  prompt := if "prompt" ∈ seen then some c.prompt else none
  context := if "context" ∈ seen then c.context else none
  encoding := if "encoding" ∈ seen then c.encoding else .strict
  columns := if "columns" ∈ seen then c.columns else 100000

theorem filled {c : SessionConfig} (fits : c.Fits) : record.Filled c.within c.written where
  names := by decide
  listed := by
    simp only [written,List.map_append]
    exact (((((List.Sublist.refl ["command","args"]).append (listed_optional _ _)).append (listed_optional _ _)).append
      (List.Sublist.refl ["prompt"])).append (listed_optional _ _)).append (List.Sublist.refl ["encoding","columns"])
  start := rfl
  put := by
    intro f member seen k same
    simp only [written,List.mem_append,List.mem_cons,List.not_mem_nil,or_false,mem_optional,Option.map_eq_some_iff,
      ite_eq_iff,reduceCtorEq,and_false,false_or,Option.some.injEq] at member
    rcases member with (((((rfl | rfl) | ⟨_,⟨path,is,rfl⟩,rfl⟩) | ⟨vars,is,rfl⟩) | rfl) | ⟨_,⟨name,is,rfl⟩,rfl⟩) |
      (rfl | rfl)
    · simp [record,reads_string c.command k same,within]
    · simp [record,reads_strings c.args k same,within]
    · have reads := reads_some (by simp) (reads_string path) k same
      simp [record,reads,within,is]
    · obtain ⟨-,rfl⟩ := is
      obtain ⟨pairs,reads,sorted⟩ := reads_variables fits.env same
      simp [record,reads,sorted,within]
    · simp [record,reads_string c.prompt k same,within]
    · have reads := reads_some (by simp) (reads_string name) k same
      simp [record,reads,within,is]
    · simp [record,c.encoding.reads_name k same,within]
    · simp [record,reads_nat fits.columns k same,within]

theorem within_all (c : SessionConfig) {seen : List String} (all : ∀ name, name ∈ seen ↔ name ∈ c.written.map (·.1)) :
    c.within seen = ⟨c.command,c.args,c.cwd,c.env,c.prompt,c.context,c.encoding,c.columns⟩ := by
  simp only [written,List.map_append,List.mem_append,mem_names_optional,List.map_cons,List.map_nil] at all
  obtain ⟨command,args,cwd,env,prompt,context,encoding,columns⟩ := c
  cases cwd <;> cases env <;> cases context <;> simp [within,all]

theorem reads_toJson {c : SessionConfig} (fits : c.Fits) : Reads SessionConfig.read c.toJson (.ok c) := by
  rw [toJson_eq]
  refine (filled fits).reads fun seen all => ?_
  rw [c.within_all all]
  rfl

end SessionConfig

/-! ## Test cases -/

namespace ProbeCase

/-- What was read of a probe when the fields in `seen` were. -/
def within (p : ProbeCase) (seen : List String) : Option String × Option Expectation :=
  (if "input" ∈ seen then some p.input else none, if "expect" ∈ seen then some p.expect else none)

theorem filledBut (p : ProbeCase) : record.FilledBut p.within ("expect", p.expect.toJson) [("input", .str p.input)] := by
  refine ⟨by decide,List.Sublist.refl _,rfl,fun f member => ?_⟩
  obtain rfl := List.mem_singleton.mp member
  refine ⟨fun q => (some p.input, q.2),fun q k same => ?_,fun seen => by simp [within]⟩
  simp [record,reads_string p.input k same]

theorem reads_toJson {p : ProbeCase} (nonempty : p.expect ≠ .immediate "") : Reads record.read p.toJson (.ok p) := by
  have expect := Expectation.reads_toJson nonempty
  refine (p.filledBut.filled fun seen k same => ?_).reads fun seen all => ?_
  · simp [record,expect k same,within]
  · have whole : p.within seen = (some p.input, some p.expect) := by simp [within,all]
    rw [whole]
    rfl

theorem refuses_emptyImmediate {p : ProbeCase} (empty : p.expect = .immediate "") :
    Reads record.read p.toJson (.error (.rule .emptyImmediate)) := by
  have expect := Expectation.refuses_emptyImmediate
  rw [← empty] at expect
  refine (p.filledBut.refused fun q k same => ?_).reads
  simp [record,expect k same]

end ProbeCase

namespace TestCase

/-- What was read of a test case when the fields in `seen` were. -/
def within (t : TestCase) (seen : List String) : Option String × Option (List ProbeCase) :=
  (if "name" ∈ seen then some t.name else none, if "probes" ∈ seen then some t.probes else none)

theorem filledBut (t : TestCase) :
    record.FilledBut t.within ("probes", .arr (t.probes.map ProbeCase.toJson)) [("name", .str t.name)] := by
  refine ⟨by decide,List.Sublist.refl _,rfl,fun f member => ?_⟩
  obtain rfl := List.mem_singleton.mp member
  refine ⟨fun q => (some t.name, q.2),fun q k same => ?_,fun seen => by simp [within]⟩
  simp [record,reads_string t.name k same]

theorem reads_toJson {t : TestCase} (nonempty : ∀ p ∈ t.probes, p.expect ≠ .immediate "") :
    Reads record.read t.toJson (.ok t) := by
  have probes := reads_map fun p member => ProbeCase.reads_toJson (nonempty p member)
  refine (t.filledBut.filled fun seen k same => ?_).reads fun seen all => ?_
  · simp [record,probes k same,within]
  · have whole : t.within seen = (some t.name, some t.probes) := by simp [within,all]
    rw [whole]
    rfl

theorem refuses_emptyImmediate {t : TestCase} (empty : ∃ p ∈ t.probes, p.expect = .immediate "") :
    Reads record.read t.toJson (.error (.rule .emptyImmediate)) := by
  have probes := reads_map_refused (fun p _ => ProbeCase.reads_toJson)
    (fun p _ => ProbeCase.refuses_emptyImmediate) empty
  refine (t.filledBut.refused fun q k same => ?_).reads
  simp [record,probes k same]

end TestCase

/-- The numbers fit their types, and the variables are those of a map. -/
structure Suite.Fits (s : Suite) : Prop where
  version : s.version ≤ versionLimit
  shell : s.shell.Fits
  config : ∀ c ∈ s.config, c.Fits

namespace Suite

/-- The fields that are not left out, but for the test cases. -/
def besides (s : Suite) : List (String × Json) :=
  [("suite_version", .nat s.version),("name", .str s.name),("shell", s.shell.toJson)] ++
    Json.optional "config" (s.config.map HarnessConfig.toJson) ++
    Json.optional "fixture" (s.fixture.map FixtureSpec.toJson)

/-- The field of the test cases. -/
def testsField (s : Suite) : String × Json := ("tests", .arr (s.tests.map TestCase.toJson))

/-- What was read of a suite when the fields in `seen` were. -/
def within (s : Suite) (seen : List String) : Fields where
  version := if "suite_version" ∈ seen then s.version else suiteVersion
  name := if "name" ∈ seen then some s.name else none
  shell := if "shell" ∈ seen then some s.shell else none
  config := if "config" ∈ seen then s.config else none
  fixture := if "fixture" ∈ seen then s.fixture else none
  tests := if "tests" ∈ seen then some s.tests else none

theorem filledBut {s : Suite} (fits : s.Fits) : record.FilledBut s.within s.testsField s.besides where
  names := by decide
  listed := by
    simp only [besides,List.map_append]
    exact (((List.Sublist.refl ["suite_version","name","shell"]).append (listed_optional _ _)).append
      (listed_optional _ _)).append (List.Sublist.refl ["tests"])
  start := rfl
  put := by
    intro f member
    simp only [besides,List.mem_append,List.mem_cons,List.not_mem_nil,or_false,mem_optional,
      Option.map_eq_some_iff] at member
    rcases member with ((rfl | rfl | rfl) | ⟨_,⟨c,is,rfl⟩,rfl⟩) | ⟨_,⟨f,is,rfl⟩,rfl⟩
    · refine ⟨fun p => { p with version := s.version },fun p k same => ?_,fun seen => by simp [within]⟩
      simp [record,reads_nat fits.version k same]
    · refine ⟨fun p => { p with name := some s.name },fun p k same => ?_,fun seen => by simp [within]⟩
      simp [record,reads_string s.name k same]
    · refine ⟨fun p => { p with shell := some s.shell },fun p k same => ?_,fun seen => by simp [within]⟩
      simp [record,SessionConfig.reads_toJson fits.shell k same]
    · refine ⟨fun p => { p with config := some c },fun p k same => ?_,fun seen => by simp [within,is]⟩
      have reads := reads_some (by simp [HarnessConfig.toJson]) (HarnessConfig.reads_toJson (fits.config c is)) k same
      simp [record,reads]
    · refine ⟨fun p => { p with fixture := some f },fun p k same => ?_,fun seen => by simp [within,is]⟩
      have reads := reads_some (by simp [FixtureSpec.toJson]) f.reads_toJson k same
      simp [record,reads]

theorem within_all (s : Suite) {seen : List String}
    (all : ∀ name, name ∈ seen ↔ name ∈ (s.besides ++ [s.testsField]).map (·.1)) :
    s.within seen = ⟨s.version,s.name,s.shell,s.config,s.fixture,s.tests⟩ := by
  simp only [besides,testsField,List.map_append,List.mem_append,mem_names_optional,List.map_cons,List.map_nil] at all
  obtain ⟨version,name,shell,config,fixture,tests⟩ := s
  cases config <;> cases fixture <;> simp [within,all]

theorem reads_toJson {s : Suite} (fits : s.Fits) (nonempty : ∀ t ∈ s.tests, ∀ p ∈ t.probes, p.expect ≠ .immediate "") :
    Reads Suite.read s.toJson (.ok s) := by
  have tests := reads_map fun t member => TestCase.reads_toJson (nonempty t member)
  refine ((filledBut fits).filled fun seen k same => ?_).reads fun seen all => ?_
  · simp [record,testsField,tests k same,within]
  · rw [s.within_all all]
    rfl

theorem refuses_emptyImmediate {s : Suite} (fits : s.Fits)
    (empty : ∃ t ∈ s.tests, ∃ p ∈ t.probes, p.expect = .immediate "") :
    Reads Suite.read s.toJson (.error (.rule .emptyImmediate)) := by
  have tests := reads_map_refused
    (fun t _ others => TestCase.reads_toJson fun p member is => others ⟨p,member,is⟩)
    (fun t _ => TestCase.refuses_emptyImmediate) empty
  refine ((filledBut fits).refused fun p k same => ?_).reads
  simp [record,testsField,tests k same]

end Suite

/-- A suite that is written as a value and read again is the same suite, whatever order the fields of objects
    are kept in; but one that expects an empty text to be inserted is refused for that. -/
theorem suite_roundTrip (s : Suite) (fits : s.Fits) (j : Json) (same : s.toJson.Same j) :
    ((∀ t ∈ s.tests, ∀ p ∈ t.probes, p.expect ≠ .immediate "") → Suite.ofJson j = .ok s) ∧
    ((∃ t ∈ s.tests, ∃ p ∈ t.probes, p.expect = .immediate "") →
      ∃ r, Suite.ofJson j = .error r ∧ r.message = "immediate expectation must not be empty") := by
  refine ⟨fun nonempty => Suite.reads_toJson fits nonempty j same,fun empty => ?_⟩
  exact ⟨.rule .emptyImmediate,Suite.refuses_emptyImmediate fits empty j same,rfl⟩

/-- A suite with a field of each kind, and a probe that expects a text to be inserted. -/
def insertSuite (text : String) : Suite where
  name := "insert"
  shell := { command := "cqlsh", env := [("LANG", "C"),("TERM", "dumb")], prompt := "> ", context := some "ks" }
  config := some { responseBudget := 200 }
  fixture := some { setup := ["true"], cwd := some "/tmp" }
  tests := [⟨"one",[⟨"SEL",.immediate text⟩,⟨"",.choices (TokenSet.ofList ["b","a"]) true⟩]⟩]

theorem insertSuite_fits (text : String) : (insertSuite text).Fits := by
  refine ⟨(by decide : suiteVersion ≤ Suite.versionLimit),⟨(by decide : 100000 ≤ SessionConfig.columnLimit),?_⟩,?_⟩
  · exact List.pairwise_pair.mpr (by decide)
  · intro c member
    obtain rfl := Option.mem_some.mp member
    exact (by decide : ∀ f ∈ HarnessConfig.fields { responseBudget := 200 }, f.2 ≤ HarnessConfig.limit)

theorem insertSuite_roundTrip : (insertSuite "ECT").Fits ∧
    Suite.ofJson (.obj ((insertSuite "ECT").besides ++ [(insertSuite "ECT").testsField]).reverse) =
      .ok (insertSuite "ECT") ∧
    ∃ r, Suite.ofJson (insertSuite "").toJson = .error r ∧ r.message = "immediate expectation must not be empty" := by
  have fits := insertSuite_fits "ECT"
  have reversed : (insertSuite "ECT").toJson.Same
      (.obj ((insertSuite "ECT").besides ++ [(insertSuite "ECT").testsField]).reverse) :=
    .obj rfl (List.forall₂_same.mpr fun j _ => .refl j) (List.reverse_perm _).symm
  refine ⟨fits,(suite_roundTrip _ fits _ reversed).1 (by decide),?_⟩
  exact (suite_roundTrip _ (insertSuite_fits "") _ (.refl _)).2 (by decide)

end TabCompletion
