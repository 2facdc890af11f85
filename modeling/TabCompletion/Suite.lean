import TabCompletion.Config
import TabCompletion.Expectation
import TabCompletion.Shell

/-!
# Suites

A suite is an ordered list of test cases against one shell. The probes of a test case share one
session and run in order.
-/
namespace TabCompletion

structure ProbeCase where
  input : String
  expect : Expectation
  deriving DecidableEq, Repr, Inhabited

def ProbeCase.inputFor (p : ProbeCase) (context : Option String) : String :=
  fillContext context p.input

structure TestCase where
  name : String
  probes : List ProbeCase
  deriving DecidableEq, Repr, Inhabited

def suiteVersion : Nat := 1

structure Suite where
  version : Nat := suiteVersion
  name : String
  shell : SessionConfig
  config : Option HarnessConfig := none
  fixture : Option FixtureSpec := none
  tests : List TestCase
  deriving DecidableEq, Repr, Inhabited

def Suite.totalProbes (s : Suite) : Nat := s.tests.foldr (fun t n => t.probes.length + n) 0

namespace ProbeCase

def toJson (p : ProbeCase) : Json := .obj [("input", .str p.input),("expect", p.expect.toJson)]

def record : Record (Option String × Option Expectation) ProbeCase where
  names := ["input","expect"]
  closed := false
  start := (none, none)
  put
    | "input", n, (_, expect) => return (some (← n.readString), expect)
    | _, n, (input, _) => return (input, some (← Expectation.read n))
  finish p := return ⟨← required "input" p.1,← required "expect" p.2⟩

end ProbeCase

namespace TestCase

def toJson (t : TestCase) : Json :=
  .obj [("name", .str t.name),("probes", .arr (t.probes.map ProbeCase.toJson))]

def record : Record (Option String × Option (List ProbeCase)) TestCase where
  names := ["name","probes"]
  closed := false
  start := (none, none)
  put
    | "name", n, (_, probes) => return (some (← n.readString), probes)
    | _, n, (name, _) => return (name, some (← n.readList ProbeCase.record.read))
  finish p := return ⟨← required "name" p.1,← required "probes" p.2⟩

end TestCase

namespace Suite

def toJson (s : Suite) : Json :=
  .obj <|
    [("suite_version", .nat s.version),("name", .str s.name),("shell", s.shell.toJson)] ++
    Json.optional "config" (s.config.map HarnessConfig.toJson) ++
    Json.optional "fixture" (s.fixture.map FixtureSpec.toJson) ++
    [("tests", .arr (s.tests.map TestCase.toJson))]

structure Fields where
  version : Nat := suiteVersion
  name : Option String := none
  shell : Option SessionConfig := none
  config : Option HarnessConfig := none
  fixture : Option FixtureSpec := none
  tests : Option (List TestCase) := none

def versionLimit : Nat := 4294967295

def record : Record Fields Suite where
  names := ["suite_version","name","shell","config","fixture","tests"]
  closed := false
  start := {}
  put
    | "suite_version", n, p => return { p with version := ← n.readNat versionLimit }
    | "name", n, p => return { p with name := some (← n.readString) }
    | "shell", n, p => return { p with shell := some (← SessionConfig.read n) }
    | "config", n, p => return { p with config := ← n.readOption HarnessConfig.read }
    | "fixture", n, p => return { p with fixture := ← n.readOption FixtureSpec.read }
    | _, n, p => return { p with tests := some (← n.readList TestCase.record.read) }
  finish p := do
    let name ← required "name" p.name
    let shell ← required "shell" p.shell
    return ⟨p.version,name,shell,p.config,p.fixture,← required "tests" p.tests⟩

def read (n : Node) : Reading Suite := record.read n

def ofJson (j : Json) : Reading Suite := read (Node.ofJson j)

end Suite
end TabCompletion
