import TabCompletion.Probe
import TabCompletion.Proofs.Dialogue

/-!
# Probes in a straight line

A probe is run as a machine with states. `Probe.run_eq` says that its run is a dialogue without
states: it types the input, asks once, and goes on to `Probe.listing` only if nothing but the echo
of the input came.
-/
namespace TabCompletion.Probe

variable {σ : Type} [Transport σ]

/-- What a probe does from its second TAB on. -/
def listing (p : Probe) : Dialogue σ CompletionResult := do
  Transport.send [tab]
  let capture ← Transport.readUntilQuiet p.config.responseBudget
  Transport.send [ctrlC]
  resync p.prompt p.config
  let output ← Dialogue.ofResult (p.encoding.decode (if capture = [bell] then [] else capture))
  Dialogue.ofResult (classifyList output p.input p.prompt)

theorem advance_resolved (p : Probe) (n : Nat) (state : ProbeState) (resolved : state.isResolved = true) :
    (p.advance n state : Dialogue σ ProbeState) = pure state := by
  cases n with
  | zero => rfl
  | succ n => simp [advance,resolved]

theorem advance_unresolved (p : Probe) (n : Nat) (state : ProbeState)
    (unresolved : state.isResolved = false) :
    (p.advance (n + 1) state : Dialogue σ ProbeState) = (p.step state >>= p.advance n) := by
  simp [advance,unresolved]

/-- The run of a probe as a dialogue without states. -/
theorem run_eq (p : Probe) : (p.run : Dialogue σ CompletionResult) = (do
    Transport.send (Utf8.encode p.input)
    Transport.send [tab]
    let capture ← Transport.readUntilQuiet p.config.responseBudget
    let rest ← Dialogue.ofResult (p.stripEcho capture)
    if rest = [] then p.listing
    else
      let text ← Dialogue.ofResult (p.encoding.decode rest)
      return .immediate text) := by
  rw [run,stepLimit]
  simp only [p.advance_unresolved _ .idle rfl,step,bind_assoc,pure_bind,
    p.advance_unresolved _ .probeSent rfl,
    p.advance_unresolved _ .awaitingImmediate rfl]
  -- What comes after the echo decides which of the two last states is next.
  refine congrArg _ (funext fun _ => congrArg _ (funext fun _ => congrArg _ (funext fun capture =>
    congrArg _ (funext fun rest => ?_))))
  by_cases nothing : rest = []
  · subst nothing
    simp only [List.isEmpty_nil,if_true,bind_assoc,pure_bind,
      p.advance_unresolved _ .awaitingList rfl,step,listing]
    simp only [p.advance_resolved 0 (.listResolved _) rfl,pure_bind,finish]
  · have more : rest.isEmpty = false := by simpa using nothing
    simp only [more,nothing,Bool.false_eq_true,if_false,bind_assoc,pure_bind]
    simp only [p.advance_resolved 1 (.immediateResolved _) rfl,pure_bind,finish]
    rfl

end TabCompletion.Probe
