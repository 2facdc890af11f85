import TabCompletion.Error
import TabCompletion.Transport.Basic

/-!
# Steps that may fail

A result that is made in steps is one step at a time: `bind_eq_ok` and `bind_eq_error` say where its
value or its error comes from. A dialogue that is made of parts runs them one after the other on the
terminal: `Dialogue.run_bind` takes the first part off, and the lemmas for `attempt` and `ofResult` say
that these fail only as they are told to.
-/
namespace TabCompletion

section

variable {ε α β : Type}

/-- The steps have a value if the first one has one and the rest makes it from that. -/
theorem bind_eq_ok {x : Except ε α} {f : α → Except ε β} {b : β} :
    (x >>= f) = .ok b ↔ ∃ a, x = .ok a ∧ f a = .ok b := by
  cases x with
  | error e => simp [bind,Except.bind]
  | ok a => simp [bind,Except.bind]

/-- The steps fail where the first one fails or the rest does. -/
theorem bind_eq_error {x : Except ε α} {f : α → Except ε β} {e : ε} :
    (x >>= f) = .error e ↔ x = .error e ∨ ∃ a, x = .ok a ∧ f a = .error e := by
  cases x with
  | error e' => simp [bind,Except.bind]
  | ok a => simp [bind,Except.bind]

theorem map_eq_ok {x : Except ε α} {f : α → β} {b : β} : x.map f = .ok b ↔ ∃ a, x = .ok a ∧ f a = b := by
  cases x with
  | error e => simp [Except.map]
  | ok a => simp [Except.map]

theorem map_eq_error {x : Except ε α} {f : α → β} {e : ε} : x.map f = .error e ↔ x = .error e := by
  cases x with
  | error e' => simp [Except.map]
  | ok a => simp [Except.map]

end

/-! ## Dialogues -/

namespace Dialogue

variable {σ α β : Type}

@[simp] theorem run_throw (e : HarnessError) (t : σ) :
    (throw e : Dialogue σ α).run t = (.error e, t) := rfl

@[simp] theorem run_ofResult (r : HarnessResult α) (t : σ) : (ofResult r).run t = (r, t) := rfl

@[simp] theorem run_attempt (d : Dialogue σ α) (t : σ) :
    d.attempt.run t = (.ok (d.run t).1, (d.run t).2) := rfl

/-- A part that fails ends the dialogue; one that succeeds leaves its terminal to the rest. -/
theorem run_bind (d : Dialogue σ α) (f : α → Dialogue σ β) (t : σ) :
    (d >>= f).run t =
      match d.run t with
      | (.ok a, t') => (f a).run t'
      | (.error e, t') => (.error e, t') := by
  show ExceptT.bindCont f (d.run t).1 (d.run t).2 = _
  obtain ⟨outcome,t'⟩ := d.run t
  cases outcome with
  | ok a => rfl
  | error e => rfl

theorem run_bind_ok {d : Dialogue σ α} {f : α → Dialogue σ β} {t t' : σ} {a : α}
    (ran : d.run t = (.ok a, t')) : (d >>= f).run t = (f a).run t' := by
  rw [run_bind,ran]

/-- A dialogue of two parts succeeds where both do, one after the other. -/
theorem run_bind_eq_ok {d : Dialogue σ α} {f : α → Dialogue σ β} {t t' : σ} {b : β} :
    (d >>= f).run t = (.ok b, t') ↔ ∃ a u, d.run t = (.ok a, u) ∧ (f a).run u = (.ok b, t') := by
  rw [run_bind]
  obtain ⟨outcome,u⟩ := d.run t
  cases outcome with
  | ok a =>
    constructor
    · intro ran
      exact ⟨a,u,rfl,ran⟩
    · rintro ⟨_,_,same,ran⟩
      cases same
      exact ran
  | error e =>
    constructor
    · intro ran
      cases ran
    · rintro ⟨_,_,same,_⟩
      cases same

theorem run_attempt_eq {d : Dialogue σ α} {t t' : σ} {r : HarnessResult α} (ran : d.run t = (r, t')) :
    d.attempt.run t = (.ok r, t') := by
  rw [run_attempt,ran]

end Dialogue
end TabCompletion
