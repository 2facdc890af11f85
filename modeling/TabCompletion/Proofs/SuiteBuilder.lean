import TabCompletion.Proofs.Construction
import TabCompletion.Proofs.Prompt
import TabCompletion.SuiteBuilder

/-!
# Suites built in steps

`begun` reads the test cases off the steps alone: each `test` begins one, and the probes up to the next `test`
are its probes. A suite has the probes before the first `test` in a test case of its own, if there are any,
and then these (`perform_tests`), so no probe is lost or put elsewhere (`built_suite_keeps_probes`).
-/
namespace TabCompletion.SuiteBuilder

/-- A step in which a suite is built. -/
inductive Step where
  | test (name : String)
  | probe (input : String) (expect : Expectation)
  | config (config : HarnessConfig)
  | fixture (setup teardown : List String)

namespace Step

/-- What a step does. -/
def apply (b : SuiteBuilder) : Step → SuiteBuilder
  | test name => b.test name
  | probe input expect => b.probe input expect
  | config c => b.withConfig c
  | fixture setup teardown => b.withFixture setup teardown

def isTest : Step → Bool
  | test _ => true
  | _ => false

def isProbe : Step → Bool
  | probe _ _ => true
  | _ => false

def name? : Step → Option String
  | test name => some name
  | _ => none

def probe? : Step → Option ProbeCase
  | probe input expect => some ⟨input,expect⟩
  | _ => none

def config? : Step → Option HarnessConfig
  | config c => some c
  | _ => none

def fixture? : Step → Option FixtureSpec
  | fixture setup teardown => some { setup, teardown }
  | _ => none

end Step

/-- Steps one after the other. -/
def perform (b : SuiteBuilder) (steps : List Step) : SuiteBuilder := steps.foldl Step.apply b

/-- The probes before the first `test`. -/
def leading (steps : List Step) : List ProbeCase := (steps.takeWhile (!·.isTest)).filterMap Step.probe?

/-- The test cases that are begun, each with the probes before the next one. -/
def begun : List Step → List TestCase
  | [] => []
  | .test name :: rest => ⟨name,leading rest⟩ :: begun rest
  | _ :: rest => begun rest

/-- Every `test` is followed by a probe before the next `test` or the end. -/
def Filled (steps : List Step) : Prop :=
  ∀ before name after, steps = before ++ .test name :: after → ∃ step ∈ after.takeWhile (!·.isTest), step.isProbe = true

variable {b : SuiteBuilder} {steps : List Step}

theorem perform_cons (b : SuiteBuilder) (step : Step) (rest : List Step) : perform b (step :: rest) = perform (step.apply b) rest := rfl

@[simp] theorem leading_nil : leading [] = [] := rfl

@[simp] theorem leading_test (name : String) (rest : List Step) : leading (.test name :: rest) = [] := rfl

@[simp] theorem leading_probe (input : String) (expect : Expectation) (rest : List Step) :
    leading (.probe input expect :: rest) = ⟨input,expect⟩ :: leading rest := rfl

@[simp] theorem leading_config (c : HarnessConfig) (rest : List Step) : leading (.config c :: rest) = leading rest := rfl

@[simp] theorem leading_fixture (setup teardown : List String) (rest : List Step) :
    leading (.fixture setup teardown :: rest) = leading rest := rfl

theorem addProbe_last (probe : ProbeCase) (earlier : List TestCase) (t : TestCase) :
    addProbe probe (earlier ++ [t]) = earlier ++ [{ t with probes := t.probes ++ [probe] }] := by
  induction earlier with
  | nil => rfl
  | cons first rest ih =>
    cases rest with
    | nil => rfl
    | cons second more => exact congrArg (first :: ·) ih

theorem probe_tests {earlier : List TestCase} {t : TestCase} (input : String) (expect : Expectation)
    (tests : b.tests = earlier ++ [t]) :
    (b.probe input expect).tests = earlier ++ [{ t with probes := t.probes ++ [⟨input,expect⟩] }] := by
  have nonempty : b.tests.isEmpty = false := by simp [tests]
  rw [probe,nonempty]
  exact (congrArg _ tests).trans (addProbe_last _ earlier t)

/-- Probes go to the test case that is open, until another one is begun. -/
theorem perform_tests_open {earlier : List TestCase} {t : TestCase} (tests : b.tests = earlier ++ [t]) :
    (perform b steps).tests = earlier ++ { t with probes := t.probes ++ leading steps } :: begun steps := by
  induction steps generalizing b earlier t with
  | nil => simpa [perform,begun] using tests
  | cons step rest ih =>
    rw [perform_cons]
    cases step with
    | test name =>
      have more : (b.test name).tests = (earlier ++ [t]) ++ [⟨name,[]⟩] := congrArg (· ++ _) tests
      rw [Step.apply,ih more]
      simp [begun]
    | probe input expect =>
      rw [Step.apply,ih (probe_tests input expect tests)]
      simp [begun]
    | config c => exact ih tests
    | fixture setup teardown => exact ih tests

theorem perform_tests (noTests : b.tests = []) :
    (perform b steps).tests = (if leading steps = [] then [] else [⟨b.name,leading steps⟩]) ++ begun steps := by
  induction steps generalizing b with
  | nil => simpa [perform,begun] using noTests
  | cons step rest ih =>
    rw [perform_cons]
    cases step with
    | test name =>
      have first : (b.test name).tests = [] ++ [⟨name,[]⟩] := congrArg (· ++ _) noTests
      rw [Step.apply,perform_tests_open first]
      simp [begun]
    | probe input expect =>
      have first : (b.probe input expect).tests = [] ++ [⟨b.name,[⟨input,expect⟩]⟩] := by simp [probe,noTests,test,addProbe]
      rw [Step.apply,perform_tests_open first]
      simp [begun]
    | config c => exact ih noTests
    | fixture setup teardown => exact ih noTests

/-! ## What the test cases hold -/

theorem flatMap_begun (steps : List Step) : leading steps ++ (begun steps).flatMap (·.probes) = steps.filterMap Step.probe? := by
  induction steps with
  | nil => rfl
  | cons step rest ih =>
    cases step with
    | test name => exact ih
    | probe input expect => exact congrArg (⟨input,expect⟩ :: ·) ih
    | config c => exact ih
    | fixture setup teardown => exact ih

theorem map_name_begun (steps : List Step) : (begun steps).map (·.name) = steps.filterMap Step.name? := by
  induction steps with
  | nil => rfl
  | cons step rest ih =>
    cases step with
    | test name => exact congrArg (name :: ·) ih
    | _ => exact ih

/-- Where a `test` stands among the others, there is the test case that it begins. -/
theorem begun_append_test (before : List Step) (name : String) (after : List Step) :
    (begun (before ++ .test name :: after))[before.countP (·.isTest)]? = some ⟨name,leading after⟩ := by
  induction before with
  | nil => rfl
  | cons step rest ih =>
    cases step with
    | test other => simpa [begun,Step.isTest] using ih
    | _ => simpa [begun,Step.isTest] using ih

theorem leading_ne_nil_iff : leading steps ≠ [] ↔ ∃ step ∈ steps.takeWhile (!·.isTest), step.isProbe = true := by
  have probes : ∀ step : Step, step.probe? = none ↔ step.isProbe = false := by
    intro step
    cases step <;> simp [Step.probe?,Step.isProbe]
  simp [leading,List.filterMap_eq_nil_iff,probes]

/-- No test case is without probes just if there is a probe after each `test`. -/
theorem filled_iff : Filled steps ↔ ∀ t ∈ begun steps, t.probes ≠ [] := by
  constructor
  · intro filled t member
    induction steps with
    | nil => cases member
    | cons step rest ih =>
      have later : Filled rest := fun before name after split => filled (step :: before) name after (congrArg (step :: ·) split)
      cases step with
      | test name =>
        rcases List.mem_cons.mp member with rfl | member
        · exact leading_ne_nil_iff.mpr (filled [] name rest rfl)
        · exact ih later member
      | _ => exact ih later member
  · rintro nonempty before name after rfl
    have there := List.mem_of_getElem? (begun_append_test before name after)
    exact leading_ne_nil_iff.mp (nonempty _ there)

/-- What is given at the start stays, and of what is replaced the last one counts. -/
theorem perform_rest (b : SuiteBuilder) (steps : List Step) :
    (perform b steps).name = b.name ∧ (perform b steps).shell = b.shell ∧
      (perform b steps).config = (steps.filterMap Step.config?).getLast?.or b.config ∧
      (perform b steps).fixture = (steps.filterMap Step.fixture?).getLast?.or b.fixture := by
  induction steps generalizing b with
  | nil => exact ⟨rfl,rfl,rfl,rfl⟩
  | cons step rest ih =>
    obtain ⟨name,shell,config,fixture⟩ := ih (step.apply b)
    rw [perform_cons,name,shell,config,fixture]
    have last {α : Type} (x : α) (xs : List α) (y : Option α) : (x :: xs).getLast?.or y = xs.getLast?.or (some x) := by
      rw [List.getLast?_cons]
      cases xs.getLast? <;> rfl
    cases step with
    | test name => exact ⟨rfl,rfl,rfl,rfl⟩
    | probe input expect =>
      by_cases empty : b.tests.isEmpty = true <;> simp [Step.apply,probe,empty,test,Step.config?,Step.fixture?]
    | config c => exact ⟨rfl,rfl,(last c _ b.config).symm,rfl⟩
    | fixture setup teardown => exact ⟨rfl,rfl,rfl,(last _ _ b.fixture).symm⟩

theorem totalProbes_eq (s : Suite) : s.totalProbes = (s.tests.flatMap (·.probes)).length := by
  unfold Suite.totalProbes
  induction s.tests with
  | nil => rfl
  | cons t rest ih => rw [List.foldr_cons,ih,List.flatMap_cons,List.length_append]

/-- With a valid command, prompt and timing a suite is valid just if no test case is without probes. -/
theorem build_valid_iff (command : Text.isBlankText b.shell.command = false) (prompt : Text.isBlankText b.shell.prompt = false)
    (compiled : ∃ prompt, Prompt.ofTemplate b.shell.prompt b.shell.context = .ok prompt)
    (valid : ∀ c ∈ b.config, c.validate = .ok ()) : b.build.validate = .ok () ↔ ∀ t ∈ b.tests, t.probes ≠ [] := by
  rw [Suite.validate_eq_ok]
  constructor
  · rintro ⟨-,-,-,-,-,all⟩
    exact all
  · intro all
    exact ⟨rfl,command,prompt,compiled,valid,all⟩

/-- A suite that is built has the probes in the order in which they were added, each in the test case that was
    begun last before it; those before any are in a first test case with the name of the suite, which is there
    just if there are such probes. Each `test` is one more test case. Timing and fixture are the last that were
    given. A suite whose command, prompt and timing are valid is valid just if each `test` has a probe. -/
theorem built_suite_keeps_probes (name : String) (shell : SessionConfig) (steps : List Step) :
    let suite := (perform { name, shell } steps).build
    let first : List TestCase := if leading steps = [] then [] else [⟨name,leading steps⟩]
    suite.name = name ∧ suite.shell = shell ∧
    suite.tests = first ++ begun steps ∧
    suite.tests.flatMap (·.probes) = steps.filterMap Step.probe? ∧
    (begun steps).map (·.name) = steps.filterMap Step.name? ∧
    (∀ before title after, steps = before ++ .test title :: after →
      suite.tests[first.length + before.countP (·.isTest)]? = some ⟨title,leading after⟩) ∧
    suite.totalProbes = steps.countP (·.isProbe) ∧
    suite.config = (steps.filterMap Step.config?).getLast? ∧
    suite.fixture = (steps.filterMap Step.fixture?).getLast? ∧
    (Text.isBlankText shell.command = false → Text.isBlankText shell.prompt = false →
      (∃ prompt, Prompt.ofTemplate shell.prompt shell.context = .ok prompt) →
      (∀ c ∈ suite.config, c.validate = .ok ()) → (suite.validate = .ok () ↔ Filled steps)) := by
  intro suite first
  obtain ⟨named,shelled,config,fixture⟩ := perform_rest { name, shell } steps
  have tests : suite.tests = first ++ begun steps := perform_tests rfl
  have probes : suite.tests.flatMap (·.probes) = steps.filterMap Step.probe? := by
    rw [tests,List.flatMap_append,← flatMap_begun]
    by_cases empty : leading steps = []
    · simp [first,empty]
    · simp [first,empty]
  refine ⟨named,shelled,tests,probes,map_name_begun steps,?_,?_,?_,?_,?_⟩
  · rintro before title after rfl
    rw [tests,List.getElem?_append_right (Nat.le_add_right _ _),Nat.add_sub_cancel_left]
    exact begun_append_test before title after
  · rw [totalProbes_eq,probes,List.length_filterMap_eq_countP]
    congr 1
    funext step
    cases step <;> rfl
  · exact config.trans Option.or_none
  · exact fixture.trans Option.or_none
  · intro command prompt compiled valid
    have filledFirst : ∀ t ∈ first, t.probes ≠ [] := by
      intro t member
      by_cases empty : leading steps = []
      · simp [first,empty] at member
      · simp only [first,if_neg empty,List.mem_singleton] at member
        rw [member]
        exact empty
    have same : (perform { name, shell } steps).shell = shell := shelled
    rw [← same] at command prompt compiled
    rw [filled_iff]
    refine (build_valid_iff command prompt compiled valid).trans ?_
    rw [perform_tests rfl,List.forall_mem_append]
    exact and_iff_right filledFirst

/-- Steps that give each test case a probe. -/
def filledSteps : List Step :=
  [.probe "SEL" (.immediate "ECT "),.config {},.test "commands",.fixture ["load"] [],.probe "CREATE INDEX" .noChoices]

/-- A suite of the fixture shell is valid after these steps, and no longer after one more that begins a test case. -/
theorem build_filledSteps :
    let shell := fixtureShellConfig "fake" "ks"
    let built := fun steps => (perform { name := "keyspaces", shell } steps).build
    Text.isBlankText shell.command = false ∧ Text.isBlankText shell.prompt = false ∧
    (∃ prompt, Prompt.ofTemplate shell.prompt shell.context = .ok prompt) ∧
    (built filledSteps).config = some {} ∧ (built (filledSteps ++ [.test "rest"])).config = some {} ∧
    HarnessConfig.validate {} = .ok () ∧
    (built filledSteps).tests = [⟨"keyspaces",[⟨"SEL",.immediate "ECT "⟩]⟩,⟨"commands",[⟨"CREATE INDEX",.noChoices⟩]⟩] ∧
    Filled filledSteps ∧ (built filledSteps).validate = .ok () ∧
    ¬Filled (filledSteps ++ [.test "rest"]) ∧ (built (filledSteps ++ [.test "rest"])).validate ≠ .ok () := by
  intro shell built
  have command : Text.isBlankText shell.command = false := by decide
  have prompt : Text.isBlankText shell.prompt = false := by decide
  have compiled : ∃ prompt, Prompt.ofTemplate shell.prompt shell.context = .ok prompt := Prompt.ofTemplate_fixture.mpr (by decide)
  have timed : ∀ c ∈ some ({} : HarnessConfig), c.validate = .ok () := by
    rintro c ⟨⟩
    rfl
  obtain ⟨-,-,tests,-,-,-,-,config,-,valid⟩ := built_suite_keeps_probes "keyspaces" shell filledSteps
  obtain ⟨-,-,-,-,-,-,-,moreConfig,-,moreValid⟩ := built_suite_keeps_probes "keyspaces" shell (filledSteps ++ [.test "rest"])
  have iff := valid command prompt compiled (config ▸ timed)
  have moreIff := moreValid command prompt compiled (moreConfig ▸ timed)
  have filled : Filled filledSteps := filled_iff.mpr (by decide)
  have unfilled : ¬Filled (filledSteps ++ [.test "rest"]) := mt filled_iff.mp (by decide)
  exact ⟨command,prompt,compiled,config,moreConfig,rfl,tests,filled,iff.mpr filled,unfilled,mt moreIff.mp unfilled⟩

end TabCompletion.SuiteBuilder
