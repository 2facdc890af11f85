import TabCompletion.Identifier
import TabCompletion.Matching
import TabCompletion.Probe

/-!
# Sessions

A session owns a terminal and runs probes on it, one at a time. Every probe ends with the line
cancelled and the shell at a prompt, so that probes do not depend on each other.
-/
namespace TabCompletion

structure Session where
  id : Identifier
  prompt : Prompt
  encoding : EncodingMode
  config : HarnessConfig
  deriving Inhabited

structure ProbeVerdict where
  input : String
  observed : CompletionResult
  expected : Expectation
  outcome : MatchOutcome
  deriving Inhabited

namespace Session

variable {σ : Type} [Transport σ]

def ofShell (id : Identifier) (shell : SessionConfig) (config : HarnessConfig) :
    HarnessResult Session := do
  config.validate
  let prompt ← Prompt.ofTemplate shell.prompt shell.context
  return ⟨id,prompt,shell.encoding,config⟩

def context (s : Session) : Option String := s.prompt.context

def awaitStartup (s : Session) : Dialogue σ Unit := do
  let _ ← Transport.readUntilMatch s.prompt.lineStart s.config.startupTimeout

/-- The probe for an input, which is typed as it is. -/
def probe (s : Session) (input : String) : Probe := ⟨input,s.prompt,s.config,s.encoding⟩

/-- What the shell offers for an input. The line is left as it is after the probe. -/
def getCompletions (s : Session) (input : String) : Dialogue σ CompletionResult :=
  (s.probe input).run

/-- Probes an input and compares the result with an expectation, both with the name of the context
    filled in. The line is cancelled afterwards in any case; an error of the probe comes before one
    of the recovery. -/
def tryCompletions (s : Session) (input : String) (expected : Expectation) :
    Dialogue σ ProbeVerdict := do
  let input := fillContext s.context input
  let expected := expected.withContext s.context
  let probed ← (s.getCompletions input).attempt
  let recovered ← (cancelAndResync s.prompt s.config).attempt
  let observed ← Dialogue.ofResult probed
  Dialogue.ofResult recovered
  return ⟨input,observed,expected,evaluate observed expected⟩

def assertCompletions (s : Session) (input : String) (expected : Expectation) :
    Dialogue σ CompletionResult := do
  let verdict ← s.tryCompletions input expected
  match verdict.outcome with
  | .pass => return verdict.observed
  | .fail mismatch =>
    throw <| .withDetails .matchFailed
      ("completion of " ++ Text.quote verdict.input ++ ": " ++ mismatch.message)
      [("input", .str verdict.input),("detail", mismatch.detail.toJson)]

def close (s : Session) : Dialogue σ Unit := Transport.shutdown s.config.teardownGrace

end Session
end TabCompletion
