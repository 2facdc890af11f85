import TabCompletion.Suite

/-!
# Building suites

A suite is built one test case and probe at a time: a probe belongs to the test case before it, and
to one named after the suite if there is none yet.
-/
namespace TabCompletion

def fixturePrompt : String := "\nfake:" ++ contextPlaceholder ++ "> "

/-- The fixture shell with a keyspace, which is its context. -/
def fixtureShellConfig (command keyspace : String) : SessionConfig :=
  { command, args := ["--keyspace",keyspace], prompt := fixturePrompt, context := some keyspace }

structure SuiteBuilder where
  name : String
  shell : SessionConfig
  config : Option HarnessConfig := none
  fixture : Option FixtureSpec := none
  tests : List TestCase := []
  deriving DecidableEq, Repr, Inhabited

namespace SuiteBuilder

def withConfig (config : HarnessConfig) (b : SuiteBuilder) : SuiteBuilder :=
  { b with config := some config }

def withFixture (setup teardown : List String) (b : SuiteBuilder) : SuiteBuilder :=
  { b with fixture := some { setup, teardown } }

def test (name : String) (b : SuiteBuilder) : SuiteBuilder :=
  { b with tests := b.tests ++ [⟨name,[]⟩] }

/-- A probe at the end of the last of the test cases. -/
def addProbe (probe : ProbeCase) : List TestCase → List TestCase
  | [] => []
  | [t] => [{ t with probes := t.probes ++ [probe] }]
  | t :: rest => t :: addProbe probe rest

def probe (input : String) (expect : Expectation) (b : SuiteBuilder) : SuiteBuilder :=
  let b := if b.tests.isEmpty then b.test b.name else b
  { b with tests := addProbe ⟨input,expect⟩ b.tests }

def build (b : SuiteBuilder) : Suite :=
  { name := b.name, shell := b.shell, config := b.config, fixture := b.fixture, tests := b.tests }

end SuiteBuilder
end TabCompletion
