import TabCompletion.Proofs.Dialogue
import TabCompletion.Transport.Basic

/-!
# Exchanges on a transport

`Observed σ` is any transport together with the calls made on it and what came of each. `Makes` says
which exchanges a dialogue makes, whatever the transport answers, and that observing them changes
neither the outcome nor the transport.
-/
namespace TabCompletion

/-- A call with what came of it: the bytes that were read, or why it failed. A call that reads
    nothing has no bytes. -/
structure Exchange where
  call : Call
  outcome : HarnessResult Bytes

/-- A transport and the exchanges on it. -/
structure Observed (σ : Type) where
  inner : σ
  exchanges : List Exchange := []

variable {σ α β : Type}

namespace Observed

/-- A call on the inner transport with its exchange. -/
def observe (call : Call) (read : α → Bytes) (d : Dialogue σ α) : Dialogue (Observed σ) α := fun o =>
  let (outcome, inner) := d.run o.inner
  (outcome, ⟨inner,o.exchanges ++ [⟨call,outcome.map read⟩]⟩)

instance [Transport σ] : Transport (Observed σ) where
  send bytes := observe (.send bytes) (fun _ => []) (Transport.send bytes)
  readUntilQuiet quiet := observe (.readUntilQuiet quiet) id (Transport.readUntilQuiet quiet)
  readUntilMatch p timeout :=
    observe (.readUntilMatch p.source timeout) id (Transport.readUntilMatch p timeout)
  shutdown grace := observe (.shutdown grace) (fun _ => []) (Transport.shutdown grace)

end Observed

/-- On an observed transport a dialogue does what it does on the inner one, and makes exchanges of
    which `P` holds together with its outcome. -/
def Makes (d : Dialogue (Observed σ) α) (plain : Dialogue σ α)
    (P : List Exchange → HarnessResult α → Prop) : Prop :=
  ∀ o : Observed σ, ∃ made,
    d.run o = ((plain.run o.inner).1, ⟨(plain.run o.inner).2,o.exchanges ++ made⟩) ∧
      P made (plain.run o.inner).1

namespace Makes

variable {d : Dialogue (Observed σ) α} {plain : Dialogue σ α}
  {f : α → Dialogue (Observed σ) β} {g : α → Dialogue σ β}
  {P : List Exchange → HarnessResult α → Prop} {R : List Exchange → HarnessResult β → Prop}

theorem ofResult {P : List Exchange → HarnessResult α → Prop} {r : HarnessResult α} (holds : P [] r) :
    Makes (Dialogue.ofResult r) (Dialogue.ofResult r : Dialogue σ α) P := by
  intro o
  exact ⟨[],by simp,by simpa using holds⟩

theorem pure {P : List Exchange → HarnessResult α → Prop} {a : α} (holds : P [] (.ok a)) :
    Makes (Pure.pure a) (Pure.pure a : Dialogue σ α) P := ofResult holds

theorem throw {P : List Exchange → HarnessResult α → Prop} {e : HarnessError}
    (holds : P [] (.error e)) :
    Makes (MonadExcept.throw e) (MonadExcept.throw e : Dialogue σ α) P := ofResult holds

/-- The exchanges of a first part that fails are all; otherwise those of the rest follow. -/
theorem bind (first : Makes d plain P) (failed : ∀ made e, P made (.error e) → R made (.error e))
    (rest : ∀ made a, P made (.ok a) → Makes (f a) (g a) fun more r => R (made ++ more) r) :
    Makes (d >>= f) (plain >>= g) R := by
  intro o
  obtain ⟨made,ran,holds⟩ := first o
  rw [Dialogue.run_bind,Dialogue.run_bind,ran]
  cases answer : plain.run o.inner with
  | mk outcome inner =>
    rw [answer] at holds
    cases outcome with
    | error e => exact ⟨made,rfl,failed made e holds⟩
    | ok a =>
      obtain ⟨more,continued,all⟩ := rest made a holds ⟨inner,o.exchanges ++ made⟩
      exact ⟨made ++ more,by simpa using continued,all⟩

/-- The rest follows a part whether it succeeds or not. -/
theorem attempt_bind {f : HarnessResult α → Dialogue (Observed σ) β}
    {g : HarnessResult α → Dialogue σ β} (first : Makes d plain P)
    (rest : ∀ made outcome, P made outcome →
      Makes (f outcome) (g outcome) fun more r => R (made ++ more) r) :
    Makes (d.attempt >>= f) (plain.attempt >>= g) R := by
  intro o
  obtain ⟨made,ran,holds⟩ := first o
  obtain ⟨more,continued,all⟩ := rest made _ holds ⟨(plain.run o.inner).2,o.exchanges ++ made⟩
  refine ⟨made ++ more,?_,?_⟩
  · rw [Dialogue.run_bind,Dialogue.run_bind,Dialogue.run_attempt,Dialogue.run_attempt,ran]
    simpa using continued
  · rw [Dialogue.run_bind,Dialogue.run_attempt]; exact all

theorem mono {Q : List Exchange → HarnessResult α → Prop} (first : Makes d plain P)
    (weaker : ∀ made r, P made r → Q made r) : Makes d plain Q := by
  intro o
  obtain ⟨made,ran,holds⟩ := first o
  exact ⟨made,ran,weaker made _ holds⟩

/-- One call makes one exchange. -/
theorem observe (call : Call) (read : α → Bytes) (plain : Dialogue σ α) :
    Makes (Observed.observe call read plain) plain fun made r => made = [⟨call,r.map read⟩] := by
  intro o
  exact ⟨_,rfl,rfl⟩

/-- The rest follows a result that is known, if it is no error. -/
theorem ofResult_bind {known : HarnessResult α} (failed : ∀ e, known = .error e → R [] (.error e))
    (rest : ∀ a, known = .ok a → Makes (f a) (g a) R) :
    Makes (Dialogue.ofResult known >>= f) (Dialogue.ofResult known >>= g) R := by
  refine (ofResult (P := fun made r => made = [] ∧ r = known) ⟨rfl,rfl⟩).bind ?_ ?_
  · rintro made e ⟨rfl,same⟩; exact failed e same.symm
  · rintro made a ⟨rfl,same⟩; exact rest a same.symm

/-- Nothing follows a result that is known but a change of its value. -/
theorem ofResult_map {known : HarnessResult α} {f : α → β} (holds : R [] (known.map f)) :
    Makes (Dialogue.ofResult known >>= fun a => Pure.pure (f a))
      (Dialogue.ofResult known >>= fun a => Pure.pure (f a) : Dialogue σ β) R := by
  refine ofResult_bind ?_ ?_
  · rintro e rfl; exact holds
  · rintro a rfl; exact pure holds

variable [Transport σ]

/-- The rest follows a `send` that succeeds. -/
theorem send_bind {bytes : Bytes} {f : Unit → Dialogue (Observed σ) β} {g : Unit → Dialogue σ β}
    (failed : ∀ e, R [⟨.send bytes,.error e⟩] (.error e))
    (rest : Makes (f ()) (g ()) fun more r => R (⟨.send bytes,.ok []⟩ :: more) r) :
    Makes (Transport.send bytes >>= f) (Transport.send bytes >>= g) R := by
  refine (observe (.send bytes) (fun _ => []) (Transport.send bytes)).bind ?_ ?_
  · rintro made e rfl; exact failed e
  · rintro made ⟨⟩ rfl; exact rest

/-- The rest follows a capture that succeeds. -/
theorem quiet_bind {quiet : Nat} {f : Bytes → Dialogue (Observed σ) β} {g : Bytes → Dialogue σ β}
    (failed : ∀ e, R [⟨.readUntilQuiet quiet,.error e⟩] (.error e))
    (rest : ∀ bytes, Makes (f bytes) (g bytes) fun more r =>
      R (⟨.readUntilQuiet quiet,.ok bytes⟩ :: more) r) :
    Makes (Transport.readUntilQuiet quiet >>= f) (Transport.readUntilQuiet quiet >>= g) R := by
  refine (observe (.readUntilQuiet quiet) id (Transport.readUntilQuiet quiet)).bind ?_ ?_
  · rintro made e rfl; exact failed e
  · rintro made bytes rfl; exact rest bytes

/-- The rest follows a wait, whether it succeeds or not. -/
theorem wait_bind {p : Pattern} {timeout : Nat} {f : HarnessResult Bytes → Dialogue (Observed σ) β}
    {g : HarnessResult Bytes → Dialogue σ β}
    (rest : ∀ outcome, Makes (f outcome) (g outcome) fun more r =>
      R (⟨.readUntilMatch p.source timeout,outcome⟩ :: more) r) :
    Makes ((Transport.readUntilMatch p timeout).attempt >>= f)
      ((Transport.readUntilMatch p timeout).attempt >>= g) R := by
  refine (observe (.readUntilMatch p.source timeout) id
    (Transport.readUntilMatch p timeout)).attempt_bind ?_
  rintro made outcome rfl
  cases outcome with
  | ok bytes => exact rest (.ok bytes)
  | error e => exact rest (.error e)

end Makes
end TabCompletion
