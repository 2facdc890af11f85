import TabCompletion.Completion
import TabCompletion.Config
import TabCompletion.Prompt
import TabCompletion.Shell
import TabCompletion.Text.Lines
import TabCompletion.Text.Quoted
import TabCompletion.Transport.Basic

/-!
# Probes

A line editor does not say when a completion is finished, and it is not known beforehand whether an
input completes at once or is ambiguous. So a probe types the input, presses TAB, and waits for
silence. If more than the echo of the input came, that is text inserted at once. Otherwise the probe
presses TAB again, takes what comes as the list of candidates, and cancels the line. The last line
of a list must be the prompt with the input again; `classifyList` takes the candidates from the
lines before it. `cancelAndResync` brings the shell back to a prompt.
-/
namespace TabCompletion

section

def ctrlC : UInt8 := 0x03

variable {σ : Type} [Transport σ]

def noPromptAfterCancels (config : HarnessConfig) (last : HarnessError) : HarnessError :=
  .withDetails .timeout "session did not return to a prompt after two cancels"
    [("resync_timeout_ms", .nat config.resyncTimeout),
      ("resync_retry_timeout_ms", .nat config.resyncRetryTimeout),
      ("last_read", last.context.getD .null)]

/-- Waits for the prompt; after a first wait in vain, cancels the line and waits once more. -/
def resync (prompt : Prompt) (config : HarnessConfig) : Dialogue σ Unit := do
  match ← (Transport.readUntilMatch prompt.stream config.resyncTimeout).attempt with
  | .ok _ => return
  | .error e =>
    if !e.isTimeout then throw e
    Transport.send [ctrlC]
    match ← (Transport.readUntilMatch prompt.stream config.resyncRetryTimeout).attempt with
    | .ok _ => return
    | .error e => throw (if e.isTimeout then noPromptAfterCancels config e else e)

def cancelAndResync (prompt : Prompt) (config : HarnessConfig) : Dialogue σ Unit := do
  Transport.send [ctrlC]
  resync prompt config

end

inductive ProbeState where
  | idle
  /-- The input was sent. -/
  | probeSent
  /-- The first TAB was sent. -/
  | awaitingImmediate
  | immediateResolved (text : String)
  /-- The second TAB was sent. -/
  | awaitingList
  /-- The list was read as the given text. -/
  | listResolved (output : String)
  deriving DecidableEq, Repr, Inhabited

namespace ProbeState

def isResolved : ProbeState → Bool
  | immediateResolved _ => true
  | listResolved _ => true
  | _ => false

def display : ProbeState → String
  | idle => "Idle"
  | probeSent => "ProbeSent"
  | awaitingImmediate => "AwaitingImmediate"
  | immediateResolved text => "ImmediateResolved(" ++ Text.quote text ++ ")"
  | awaitingList => "AwaitingList"
  | listResolved output => "ListResolved(" ++ Text.quote output ++ ")"

end ProbeState

def EncodingMode.decode (mode : EncodingMode) (bytes : Bytes) : HarnessResult String :=
  match mode with
  | .lossy => .ok (Utf8.decodeLossy bytes)
  | .strict =>
    match Utf8.decode? bytes with
    | .ok text => .ok text
    | .error fault =>
      .error (.terminalParse "terminal output was not valid UTF-8" fault.message fault.validUpTo)

def tab : UInt8 := 0x09

def bell : UInt8 := 0x07

/-- A space and a backspace: a line editor prints them where a line wraps. -/
def erasePair : Bytes := [0x20,0x08]

structure Probe where
  input : String
  prompt : Prompt
  config : HarnessConfig
  encoding : EncodingMode

/-- The candidates in the text that came after the second TAB. -/
def classifyList (output input : String) (prompt : Prompt) : HarnessResult CompletionResult :=
  let lines := Text.lines output
  match lines.getLast? with
  | none => .ok .empty
  | some last => do
    let redraw ← prompt.redraw input
    if redraw.isFoundIn (Utf8.encode last) then return .ofLines lines.dropLast
    else
      throw <| .withDetails .protocolViolation
        ("double-tab completion does not print prompt for input " ++ Text.quote input)
        [("input", .str input),("last_line", .str last),("expected_pattern", .str redraw.source)]

namespace Probe

variable {σ : Type} [Transport σ]

/-- What came after the echo of the input, without erase pairs and bells. -/
def stripEcho (p : Probe) (capture : Bytes) : HarnessResult Bytes :=
  let cleaned := Text.removeAll erasePair capture
  match Text.dropStart? (Utf8.encode p.input) cleaned with
  | some rest => .ok (rest.filter (· != bell))
  | none =>
    .error (.withDetails .protocolViolation "terminal did not echo the probe input"
      [("input", .str p.input),("received", .str (Utf8.preview cleaned))])

/-- One step of the probe: the state after it. A step that fails leaves the state as it was. -/
def step (p : Probe) : ProbeState → Dialogue σ ProbeState
  | .idle => do
    Transport.send (Utf8.encode p.input)
    return .probeSent
  | .probeSent => do
    Transport.send [tab]
    return .awaitingImmediate
  | .awaitingImmediate => do
    let capture ← Transport.readUntilQuiet p.config.responseBudget
    let rest ← Dialogue.ofResult (p.stripEcho capture)
    if rest.isEmpty then
      Transport.send [tab]
      return .awaitingList
    else
      return .immediateResolved (← Dialogue.ofResult (p.encoding.decode rest))
  | .awaitingList => do
    let capture ← Transport.readUntilQuiet p.config.responseBudget
    Transport.send [ctrlC]
    resync p.prompt p.config
    let listing := if capture = [bell] then [] else capture
    return .listResolved (← Dialogue.ofResult (p.encoding.decode listing))
  | .immediateResolved text => return .immediateResolved text
  | .listResolved output => return .listResolved output

def finish (p : Probe) : ProbeState → HarnessResult CompletionResult
  | .immediateResolved text => .ok (.immediate text)
  | .listResolved output => classifyList output p.input p.prompt
  | state =>
    .error (.plain .internal ("probe classified before resolution (state " ++ state.display ++ ")"))

/-- At most so many steps, until the probe is finished. -/
def advance (p : Probe) : Nat → ProbeState → Dialogue σ ProbeState
  | 0, state => return state
  | n + 1, state => if state.isResolved then return state else do p.advance n (← p.step state)

def stepLimit : Nat := 4

def run (p : Probe) : Dialogue σ CompletionResult := do
  let state ← p.advance stepLimit .idle
  Dialogue.ofResult (p.finish state)

end Probe
end TabCompletion
