import TabCompletion.FixtureShell.Basic
import TabCompletion.Transport.Basic

/-!
# Simulated transports

A terminal on which the fixture shell answers: every byte that is sent is a key, and the output is
there at once. Keys after the end of the shell are ignored.
-/
namespace TabCompletion

/-- The fixture shell, its output that was not read, and whether it ended. -/
structure Simulated where
  shell : FixtureShell
  output : Bytes
  exited : Bool := false
  deriving DecidableEq, Repr, Inhabited

namespace Simulated

/-- A shell that just started: its prompt is on the terminal. -/
def ofShell (shell : FixtureShell) : Simulated := ⟨shell,Utf8.encodeChars shell.prompt,false⟩

/-- Types the bytes, unless the shell has ended. -/
def send (bytes : Bytes) (s : Simulated) : HarnessResult Unit × Simulated :=
  if s.exited then (.ok (), s)
  else
    let (output, action, shell) := s.shell.pressAll bytes
    (.ok (), ⟨shell,s.output ++ output,action == .exit⟩)

def readUntilQuiet (s : Simulated) : HarnessResult Bytes × Simulated :=
  if s.exited && s.output.isEmpty then (.error Transport.closedBeforeResponse, s)
  else (.ok s.output, { s with output := [] })

/-- The output up to a match. Without one, the output stays for later unless the shell ended. -/
def readUntilMatch (p : Pattern) (timeout : Nat) (s : Simulated) : HarnessResult Bytes × Simulated :=
  match p.splitAfter? s.output with
  | some (upTo, after) => (.ok upTo, { s with output := after })
  | none =>
    if s.exited then (.error (Transport.closedBeforePrompt s.output), { s with output := [] })
    else (.error (Transport.noPromptInTime p timeout s.output), s)

instance : Transport Simulated where
  send := Simulated.send
  readUntilQuiet _ := Simulated.readUntilQuiet
  readUntilMatch := Simulated.readUntilMatch
  shutdown _ s := (.ok (), { s with exited := true })

end Simulated
end TabCompletion
