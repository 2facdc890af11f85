import TabCompletion.Proofs.Probe
import TabCompletion.Proofs.Text.Erasing
import TabCompletion.Transport.Scripted

/-!
# What follows the echo

A probe that waits for its first capture takes the echo of its input off, and what is left decides how it
goes on. Erase pairs are taken out of the whole capture before the echo is looked for, so one of them may
begin in the echo and end after it (`Straddled`). Apart from that, what follows the echo decides alone
(`step_after_echo`): the probe goes on by the `residue` of it.
-/
namespace TabCompletion

/-- What is left of output without its erase pairs, and then without bells. -/
def residue (output : Bytes) : Bytes := (Text.removeAll erasePair output).filter (· != bell)

/-- An erase pair begins at the end of the echo and ends at the start of the output after it. -/
def Straddled (echo output : Bytes) : Prop := [0x20] <:+ echo ∧ [0x08] <+: output

instance (echo output : Bytes) : Decidable (Straddled echo output) := instDecidableAnd

variable {echo output : Bytes}

/-- Nothing is erased from an echo without backspaces. -/
theorem removeAll_erasePair_plain (plain : 0x08 ∉ echo) : Text.removeAll erasePair echo = echo := by
  refine Text.substitute_eq_self fun inside => plain ?_
  exact inside.subset (show (0x08 : UInt8) ∈ erasePair by decide)

theorem removeAll_erasePair_apart (plain : 0x08 ∉ echo) (apart : ¬Straddled echo output) :
    Text.removeAll erasePair (echo ++ output) = echo ++ Text.removeAll erasePair output := by
  have each := Text.removeAll_pair_append (x:=0x20) (y:=0x08) apart
  rw [show [0x20,0x08] = erasePair from rfl,removeAll_erasePair_plain plain] at each
  exact each

/-- A straddling pair takes the last space of the echo with it. -/
theorem removeAll_erasePair_straddled {start rest : Bytes} (plain : 0x08 ∉ start) :
    Text.removeAll erasePair (start ++ [0x20] ++ 0x08 :: rest) = start ++ Text.removeAll erasePair rest := by
  have across := Text.removeAll_pair_across (show (0x20 : UInt8) ≠ 0x08 by decide) start rest
  rw [show [0x20,0x08] = erasePair from rfl,removeAll_erasePair_plain plain] at across
  exact across

theorem residue_backspace (rest : Bytes) : residue (0x08 :: rest) = 0x08 :: residue rest := by
  have other : ¬erasePair <+: 0x08 :: rest := fun here => absurd (List.cons_prefix_cons.mp here).1 (by decide)
  rw [residue,Text.removeAll_cons other,List.filter_cons_of_pos (by decide),residue]

namespace Probe

variable {σ : Type} [Transport σ] {p : Probe}

theorem stripEcho_apart (plain : 0x08 ∉ Utf8.encode p.input) (apart : ¬Straddled (Utf8.encode p.input) output) :
    p.stripEcho (Utf8.encode p.input ++ output) = .ok (residue output) := by
  rw [stripEcho,removeAll_erasePair_apart plain apart,Text.dropStart?_append]
  rfl

/-- After a straddling pair, the check goes on only if another space stands for the one that was erased,
    and then the backspace is missing from what is left. -/
theorem stripEcho_straddled (plain : 0x08 ∉ Utf8.encode p.input) (straddled : Straddled (Utf8.encode p.input) output) :
    p.stripEcho (Utf8.encode p.input ++ output) ≠ .ok (residue output) := by
  obtain ⟨⟨start,ends⟩,⟨rest,rfl⟩⟩ := straddled
  have plainStart : 0x08 ∉ start := fun member => plain (ends ▸ List.mem_append_left _ member)
  rw [List.singleton_append,residue_backspace,stripEcho,← ends,removeAll_erasePair_straddled plainStart,
    Text.dropStart?_append_append]
  cases found : Text.dropStart? [0x20] (Text.removeAll erasePair rest) with
  | none =>
    intro same
    cases same
  | some left =>
    -- One space more was printed, so the check goes on, but with one byte less than the residue.
    have whole := Text.dropStart?_singleton.mp found
    have more : residue rest = 0x20 :: left.filter (· != bell) := by
      rw [residue,whole,List.filter_cons_of_pos (by decide)]
    intro same
    have size := congrArg List.length (Except.ok.inj same)
    rw [more,List.length_cons,List.length_cons] at size
    omega

/-- The check gives what follows the echo unless an erase pair straddles the end of the echo. -/
theorem stripEcho_eq_residue (plain : 0x08 ∉ Utf8.encode p.input) :
    p.stripEcho (Utf8.encode p.input ++ output) = .ok (residue output) ↔ ¬Straddled (Utf8.encode p.input) output :=
  ⟨fun same straddled => stripEcho_straddled plain straddled same,stripEcho_apart plain⟩

/-- How a probe goes on that waits for its first capture and is left with some output after the echo. -/
def goOnBy (p : Probe) (left : Bytes) : Dialogue σ ProbeState :=
  if left = [] then do
    Transport.send [tab]
    return .awaitingList
  else do
    let text ← Dialogue.ofResult (p.encoding.decode left)
    return .immediateResolved text

theorem decode_error {mode : EncodingMode} {bytes : Bytes} {e : HarnessError} (failed : mode.decode bytes = .error e) :
    mode = .strict ∧ e.code = .terminalParse := by
  cases mode with
  | lossy => cases failed
  | strict =>
    rw [EncodingMode.decode] at failed
    split at failed
    · cases failed
    · cases failed
      exact ⟨rfl,rfl⟩

/-- To go on fails only where the second TAB cannot be sent or what is left is not UTF-8 in strict mode. -/
theorem goOnBy_error {left : Bytes} {t u : σ} {e : HarnessError} (failed : (p.goOnBy left).run t = (.error e, u)) :
    (Transport.send [tab] : Dialogue σ Unit).run t = (.error e, u) ∨ p.encoding = .strict ∧ e.code = .terminalParse := by
  rw [goOnBy] at failed
  split at failed
  · rw [Dialogue.run_bind] at failed
    cases sent : (Transport.send [tab] : Dialogue σ Unit).run t with
    | mk outcome t' =>
    rw [sent] at failed
    cases outcome with
    | ok _ => cases failed
    | error e' =>
      cases failed
      exact .inl rfl
  · rw [Dialogue.run_bind,Dialogue.run_ofResult] at failed
    cases decoded : p.encoding.decode left with
    | ok text =>
      rw [decoded] at failed
      cases failed
    | error e' =>
      rw [decoded] at failed
      cases failed
      exact .inr (decode_error decoded)

theorem step_of_stripped {t t' : σ} {capture left : Bytes}
    (reads : (Transport.readUntilQuiet p.config.responseBudget : Dialogue σ Bytes).run t = (.ok capture, t'))
    (stripped : p.stripEcho capture = .ok left) : (p.step .awaitingImmediate).run t = (p.goOnBy left).run t' := by
  rw [step,Dialogue.run_bind_ok reads,stripped,goOnBy]
  by_cases nothing : left = []
  · rw [if_pos nothing,nothing]
    rfl
  · have more : left.isEmpty = false := by simpa using nothing
    rw [if_neg nothing]
    simp only [more,Bool.false_eq_true,if_false,Dialogue.run_bind,Dialogue.run_ofResult]

/-- A probe that reads its echo and some output goes on by the residue of that output, and fails only with
    the terminal or the encoding; unless an erase pair straddles the end of the echo, and then the check of
    the echo does not give the residue. -/
theorem step_after_echo (p : Probe) (output : Bytes) (t t' : σ) (plain : 0x08 ∉ Utf8.encode p.input)
    (reads : (Transport.readUntilQuiet p.config.responseBudget : Dialogue σ Bytes).run t =
      (.ok (Utf8.encode p.input ++ output), t')) :
    (p.stripEcho (Utf8.encode p.input ++ output) = .ok (residue output) ↔ ¬Straddled (Utf8.encode p.input) output) ∧
    (¬Straddled (Utf8.encode p.input) output →
      (p.step .awaitingImmediate).run t = (p.goOnBy (residue output)).run t' ∧
      ∀ e u, (p.step .awaitingImmediate).run t = (.error e, u) →
        (Transport.send [tab] : Dialogue σ Unit).run t' = (.error e, u) ∨
          p.encoding = .strict ∧ e.code = .terminalParse) := by
  refine ⟨stripEcho_eq_residue plain,fun apart => ?_⟩
  have goesOn := step_of_stripped reads (stripEcho_apart plain apart)
  refine ⟨goesOn,fun e u failed => ?_⟩
  rw [goesOn] at failed
  exact goOnBy_error failed

/-- A terminal that printed the echo of `SELECT ` and a list that begins with an erase pair. -/
def echoed : Scripted := { replies := [.output (Utf8.encode "SELECT " ++ [0x20,0x08,0x07])] }

theorem step_after_echo_select : ∃ p : Probe, p.input = "SELECT " ∧ 0x08 ∉ Utf8.encode p.input ∧
    ¬Straddled (Utf8.encode p.input) [0x20,0x08,0x07] ∧ residue [0x20,0x08,0x07] = [] ∧
    (p.step .awaitingImmediate).run echoed = (p.goOnBy (residue [0x20,0x08,0x07])).run { replies := [] } := by
  refine ⟨⟨"SELECT ",default,{},.strict⟩,rfl,by decide,by decide,by decide,?_⟩
  have after := step_after_echo ⟨"SELECT ",default,{},.strict⟩ [0x20,0x08,0x07] echoed { replies := [] } (by decide) rfl
  exact (after.2 (by decide)).1

/-- With a straddling pair the probe does not go on by the residue: after the echo of a letter and a space,
    a single backspace makes the check of the echo fail. -/
theorem step_not_always_by_residue : ¬∀ (p : Probe) (output : Bytes) (s s' : Scripted), 0x08 ∉ Utf8.encode p.input →
    (Transport.readUntilQuiet p.config.responseBudget : Dialogue Scripted Bytes).run s =
      (.ok (Utf8.encode p.input ++ output), s') →
    (p.step .awaitingImmediate).run s = (p.goOnBy (residue output)).run s' := by
  intro byResidue
  have same := byResidue ⟨"a ",default,{},.strict⟩ [0x08] { replies := [.output [0x61,0x20,0x08]] } { replies := [] }
    (by decide) rfl
  have outcomes := congrArg (fun ran => ran.1.toOption) same
  exact absurd outcomes (by decide)

end Probe
end TabCompletion
