import TabCompletion.Proofs.Transport.Exchange
import TabCompletion.Run

/-!
# Watched hosts

`Host.watched` is any host that besides keeps what it was asked to do, with the answers, and the calls
that were made on each terminal it takes back. `Asks` says what a part of a run asks of it, and that
watching changes nothing.
-/
namespace TabCompletion

/-- What a host was asked to do, and what came of it. -/
inductive HostCall (σ : Type) where
  | setup (outcome : HarnessResult Unit)
  | teardown (outcome : HarnessResult Unit)
  | openSession (shell : SessionConfig) (config : HarnessConfig) (outcome : HarnessResult (Session × σ))
  /-- A terminal was given back after these calls on it. -/
  | release (calls : List Call)

/-- The state of a host and what the host was asked to do. -/
structure Watched (ω σ : Type) where
  inner : ω
  calls : List (HostCall σ) := []

variable {ω σ α β γ δ : Type}

namespace Watched

/-- A question to the inner host, kept with its answer. -/
def keep (call : α → HostCall σ) (read : α → β) (question : StateM ω α) : StateM (Watched ω σ) β :=
  fun w =>
    let (answer, inner) := question.run w.inner
    (read answer, ⟨inner,w.calls ++ [call answer]⟩)

/-- A question to the inner host that changes nothing outside it. -/
def pass (question : StateM ω α) : StateM (Watched ω σ) α := fun w =>
  let (answer, inner) := question.run w.inner
  (answer, { w with inner })

end Watched

/-- The host that keeps what it is asked to do, and opens sessions on observed terminals. -/
def Host.watched (host : Host ω σ) : Host (Watched ω σ) (Observed σ) where
  setup := Watched.keep .setup id host.setup
  teardown := Watched.keep .teardown id host.teardown
  openSession shell config :=
    Watched.keep (.openSession shell config)
      (fun r => r.map fun (session, terminal) => (session, ⟨terminal,[]⟩)) (host.openSession shell config)
  release terminal :=
    Watched.keep (fun _ => .release (terminal.exchanges.map (·.call))) id (host.release terminal.inner)
  clock := Watched.pass host.clock
  newId := Watched.pass host.newId

/-- The run of a host that is not watched. -/
def Running.unwatched (r : Running (Watched ω σ)) : Running ω := ⟨r.host.inner,r.journal⟩

/-- On a watched host a part of a run does what it does on the host itself; `P` holds of what the host
    is asked to do and of the results. -/
def Asks (d : RunM (Watched ω σ) α) (plain : RunM ω β) (P : List (HostCall σ) → α → β → Prop) : Prop :=
  ∀ r : Running (Watched ω σ), ∃ calls,
    (d.run r).2 = ⟨⟨(plain.run r.unwatched).2.host,r.host.calls ++ calls⟩,
      (plain.run r.unwatched).2.journal⟩ ∧
      P calls (d.run r).1 (plain.run r.unwatched).1

namespace Asks

variable {d : RunM (Watched ω σ) α} {plain : RunM ω β} {f : α → RunM (Watched ω σ) γ} {g : β → RunM ω δ}
  {P : List (HostCall σ) → α → β → Prop} {R : List (HostCall σ) → γ → δ → Prop}

theorem pure {a : α} {b : β} (holds : P [] a b) :
    Asks (Pure.pure a : RunM (Watched ω σ) α) (Pure.pure b : RunM ω β) P := by
  intro r
  exact ⟨[],by rw [List.append_nil]; rfl,holds⟩

theorem bind (first : Asks d plain P)
    (rest : ∀ calls a b, P calls a b → Asks (f a) (g b) fun more x y => R (calls ++ more) x y) :
    Asks (d >>= f) (plain >>= g) R := by
  intro r
  obtain ⟨calls,ran,holds⟩ := first r
  obtain ⟨more,continued,all⟩ := rest calls _ _ holds (d.run r).2
  have inner : (d.run r).2.unwatched = (plain.run r.unwatched).2 := by rw [ran]; rfl
  have seen : (d.run r).2.host.calls = r.host.calls ++ calls := by rw [ran]
  rw [inner] at continued all
  refine ⟨calls ++ more,?_,all⟩
  rw [seen,List.append_assoc] at continued
  exact continued

theorem note (e : RunEvent) :
    Asks (Run.note e : RunM (Watched ω σ) Unit) (Run.note e : RunM ω Unit) fun calls _ _ => calls = [] := by
  intro r
  exact ⟨[],by rw [List.append_nil]; rfl,rfl⟩

theorem keep (call : α → HostCall σ) (read : α → β) (question : StateM ω α) :
    Asks (Run.ask (Watched.keep call read question)) (Run.ask question) fun calls a b =>
      calls = [call b] ∧ a = read b := by
  intro r
  exact ⟨_,rfl,rfl,rfl⟩

theorem pass (question : StateM ω α) :
    Asks (Run.ask (Watched.pass question) : RunM (Watched ω σ) α) (Run.ask question) fun calls a b =>
      calls = [] ∧ a = b := by
  intro r
  exact ⟨[],by rw [List.append_nil]; rfl,rfl,rfl⟩

/-- What is only told is not asked. -/
theorem note_bind {e : RunEvent} {f : Unit → RunM (Watched ω σ) γ} {g : Unit → RunM ω δ}
    (rest : Asks (f ()) (g ()) R) : Asks (Run.note e >>= f) (Run.note e >>= g) R := by
  refine (note e).bind ?_
  rintro calls ⟨⟩ ⟨⟩ rfl
  exact rest

/-- The time and new identifiers are not kept. -/
theorem pass_bind {question : StateM ω α} {f : α → RunM (Watched ω σ) γ} {g : α → RunM ω δ}
    (rest : ∀ a, Asks (f a) (g a) R) :
    Asks (Run.ask (Watched.pass question) >>= f) (Run.ask question >>= g) R := by
  refine (pass question).bind ?_
  rintro calls a b ⟨rfl,rfl⟩
  exact rest a

theorem keep_bind {call : α → HostCall σ} {read : α → β} {question : StateM ω α}
    {f : β → RunM (Watched ω σ) γ} {g : α → RunM ω δ}
    (rest : ∀ a, Asks (f (read a)) (g a) fun more x y => R (call a :: more) x y) :
    Asks (Run.ask (Watched.keep call read question) >>= f) (Run.ask question >>= g) R := by
  refine (keep call read question).bind ?_
  rintro calls b a ⟨rfl,rfl⟩
  exact rest a

end Asks
end TabCompletion
