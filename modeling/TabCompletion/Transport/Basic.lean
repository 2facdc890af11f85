import TabCompletion.Error
import TabCompletion.Pattern.Match

/-!
# Transports

A transport carries bytes to the shell under test and back. It knows nothing about completion: bytes
are sent as they are, and reads are bounded by a quiet period or by a pattern and a deadline. Every
call may fail, and changes the transport either way (`Dialogue`). `Recorded` notes the calls that are
made on a transport.
-/
namespace TabCompletion

/-- Something done with a terminal in a state of type `σ`: it succeeds or fails, and the terminal is
    in a new state in both cases. -/
abbrev Dialogue (σ : Type) := ExceptT HarnessError (StateM σ)

/-- Terminals that can be in a state of type `σ`. Times are in milliseconds. -/
class Transport (σ : Type) where
  send : Bytes → Dialogue σ Unit
  /-- All output until nothing came for the given time. -/
  readUntilQuiet : Nat → Dialogue σ Bytes
  /-- The output up to the end of the first match; the rest stays for later reads. -/
  readUntilMatch : Pattern → Nat → Dialogue σ Bytes
  /-- Stops the shell, by force after the given time. -/
  shutdown : Nat → Dialogue σ Unit := fun _ => pure ()

namespace Dialogue

variable {σ α : Type}

/-- Does something and goes on with its outcome, whether it succeeded or not. -/
def attempt (d : Dialogue σ α) : Dialogue σ (HarnessResult α) := fun s =>
  let (outcome, s') := d.run s
  (.ok outcome, s')

def ofResult (r : HarnessResult α) : Dialogue σ α := fun s => (r, s)

end Dialogue

/-- The bytes up to the end of the first match, and the bytes after it. -/
def Pattern.splitAfter? (p : Pattern) (bytes : Bytes) : Option (Bytes × Bytes) :=
  (p.find? bytes).map fun (_, last) => (bytes.take last, bytes.drop last)

namespace Transport

def closedBeforeResponse : HarnessError :=
  .plain .streamClosed "shell closed the terminal before responding"

def closedBeforePrompt (received : Bytes) : HarnessError :=
  .withDetails .streamClosed "shell closed the terminal while waiting for a prompt"
    [("received", .str (Utf8.preview received))]

def noPromptInTime (p : Pattern) (timeout : Nat) (received : Bytes) : HarnessError :=
  .withDetails .timeout "timed out waiting for prompt"
    [("pattern", .str p.source),("timeout_ms", .nat timeout),
      ("received", .str (Utf8.preview received))]

end Transport

inductive Call where
  | send (bytes : Bytes)
  | readUntilQuiet (quiet : Nat)
  | readUntilMatch (pattern : String) (timeout : Nat)
  | shutdown (grace : Nat)
  deriving DecidableEq, Repr, Inhabited

structure Recorded (σ : Type) where
  inner : σ
  calls : List Call := []

namespace Recorded

variable {σ α : Type}

def record (call : Call) (d : Dialogue σ α) : Dialogue (Recorded σ) α := fun r =>
  let (outcome, inner) := d.run r.inner
  (outcome, ⟨inner,r.calls ++ [call]⟩)

instance [Transport σ] : Transport (Recorded σ) where
  send bytes := record (.send bytes) (Transport.send bytes)
  readUntilQuiet quiet := record (.readUntilQuiet quiet) (Transport.readUntilQuiet quiet)
  readUntilMatch p timeout :=
    record (.readUntilMatch p.source timeout) (Transport.readUntilMatch p timeout)
  shutdown grace := record (.shutdown grace) (Transport.shutdown grace)

end Recorded

end TabCompletion
