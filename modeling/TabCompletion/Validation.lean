import TabCompletion.Prompt
import TabCompletion.Suite

/-!
# What is checked before a run

A suite must have a supported version, a command, a prompt that is a pattern, valid timing, and at
least one probe in each test case. The first rule that is broken, in this order, is the error. Then
the timing of the run must be valid too, with what the options and the environment say about it.
-/
namespace TabCompletion

/-- What a run may be told besides its suite: timing that replaces that of the suite, and the
    environment with its overrides. -/
structure RunOptions where
  config : Option HarnessConfig := none
  lookup : String → Option String := fun _ => none

namespace Suite

def unsupportedVersion (version : Nat) : HarnessError :=
  .withDetails .config "unsupported suite version"
    [("provided_version", .nat version),("supported_version", .nat suiteVersion)]

def noProbes (test : TestCase) : HarnessError :=
  .withDetails .config "test case has no probes" [("test", .str test.name)]

def validate (s : Suite) : HarnessResult Unit := do
  if s.version ≠ suiteVersion then throw (unsupportedVersion s.version)
  if Text.isBlankText s.shell.command then
    throw (.plain .config "shell command must not be empty")
  if Text.isBlankText s.shell.prompt then
    throw (.plain .config "shell prompt must not be empty")
  let _ ← Prompt.ofTemplate s.shell.prompt s.shell.context
  if let some config := s.config then config.validate
  if let some test := s.tests.find? (·.probes.isEmpty) then throw (noProbes test)

/-- The timing of a run: that of the options or, without one, that of the suite or the default, with
    the overrides of the environment. -/
def runConfig (s : Suite) (options : RunOptions) : HarnessResult HarnessConfig :=
  ((options.config <|> s.config).getD {}).withOverrides options.lookup

end Suite
end TabCompletion
