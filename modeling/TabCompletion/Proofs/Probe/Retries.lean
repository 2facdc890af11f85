import TabCompletion.Proofs.Dialogue
import TabCompletion.Proofs.Probe.Echo
import TabCompletion.Proofs.Session.CallDiscipline

/-!
# Steps that are tried again

A step of a probe may fail, and the probe may be asked to go on all the same. `StepCalls` says which exchanges
a step makes in each state and what comes of it, `Probe.attempts` are steps that are tried whatever came of
those before. `steps_deliver_once` says that every key is delivered once: how far the probe is, is how much
was sent, on every transport and after any failures.
-/
namespace TabCompletion

/-- The states that a probe goes on to from a state. -/
inductive ProbeState.Next : ProbeState → ProbeState → Prop where
  | typed : Next .idle .probeSent
  | asked : Next .probeSent .awaitingImmediate
  | inserted (text : String) : Next .awaitingImmediate (.immediateResolved text)
  | askedAgain : Next .awaitingImmediate .awaitingList
  | listed (output : String) : Next .awaitingList (.listResolved output)

/-- The exchanges of a step in a state, and its outcome. The second TAB is sent just if the capture is the
    echo of the input with nothing after it. -/
inductive StepCalls (p : Probe) : ProbeState → List Exchange → HarnessResult ProbeState → Prop where
  | untyped (e : HarnessError) : StepCalls p .idle [⟨.send (Utf8.encode p.input),.error e⟩] (.error e)
  | typed : StepCalls p .idle [⟨.send (Utf8.encode p.input),.ok []⟩] (.ok .probeSent)
  | unasked (e : HarnessError) : StepCalls p .probeSent [⟨.send [tab],.error e⟩] (.error e)
  | asked : StepCalls p .probeSent [⟨.send [tab],.ok []⟩] (.ok .awaitingImmediate)
  | unread (e : HarnessError) :
      StepCalls p .awaitingImmediate [⟨.readUntilQuiet p.config.responseBudget,.error e⟩] (.error e)
  | notEchoed (capture : Bytes) (e : HarnessError) (echo : p.stripEcho capture = .error e) :
      StepCalls p .awaitingImmediate [⟨.readUntilQuiet p.config.responseBudget,.ok capture⟩] (.error e)
  | inserted (capture rest : Bytes) (echo : p.stripEcho capture = .ok rest) (more : rest ≠ []) :
      StepCalls p .awaitingImmediate [⟨.readUntilQuiet p.config.responseBudget,.ok capture⟩]
        ((p.encoding.decode rest).map .immediateResolved)
  | unaskedAgain (capture : Bytes) (echo : p.stripEcho capture = .ok []) (e : HarnessError) :
      StepCalls p .awaitingImmediate [⟨.readUntilQuiet p.config.responseBudget,.ok capture⟩,
        ⟨.send [tab],.error e⟩] (.error e)
  | askedAgain (capture : Bytes) (echo : p.stripEcho capture = .ok []) :
      StepCalls p .awaitingImmediate [⟨.readUntilQuiet p.config.responseBudget,.ok capture⟩,
        ⟨.send [tab],.ok []⟩] (.ok .awaitingList)
  | unlisted (e : HarnessError) :
      StepCalls p .awaitingList [⟨.readUntilQuiet p.config.responseBudget,.error e⟩] (.error e)
  | uncancelled (capture : Bytes) (e : HarnessError) :
      StepCalls p .awaitingList [⟨.readUntilQuiet p.config.responseBudget,.ok capture⟩,
        ⟨.send [ctrlC],.error e⟩] (.error e)
  | unsynced (capture : Bytes) (e : HarnessError) (made : List Exchange)
      (resync : ResyncCalls p.prompt p.config made (.error e)) :
      StepCalls p .awaitingList (⟨.readUntilQuiet p.config.responseBudget,.ok capture⟩ ::
        ⟨.send [ctrlC],.ok []⟩ :: made) (.error e)
  | listed (capture : Bytes) (made : List Exchange) (resync : ResyncCalls p.prompt p.config made (.ok ())) :
      StepCalls p .awaitingList (⟨.readUntilQuiet p.config.responseBudget,.ok capture⟩ ::
        ⟨.send [ctrlC],.ok []⟩ :: made)
        ((p.encoding.decode (if capture = [bell] then [] else capture)).map .listResolved)
  | resolved (state : ProbeState) (finished : state.isResolved = true) : StepCalls p state [] (.ok state)

variable {σ : Type} [Transport σ] {p : Probe} {state next last : ProbeState} {made : List Exchange}
  {outcome : HarnessResult ProbeState}

/-- A step makes the calls of a step. -/
theorem Probe.step_calls (p : Probe) (state : ProbeState) :
    Makes (p.step state) (p.step state : Dialogue σ ProbeState) (StepCalls p state) := by
  cases state with
  | idle => exact Makes.send_bind (fun e => .untyped e) (Makes.pure .typed)
  | probeSent => exact Makes.send_bind (fun e => .unasked e) (Makes.pure .asked)
  | awaitingImmediate =>
    refine Makes.quiet_bind (fun e => .unread e) fun capture => ?_
    refine Makes.ofResult_bind (fun e echo => .notEchoed capture e echo) fun rest echo => ?_
    cases rest with
    | nil => exact Makes.send_bind (fun e => .unaskedAgain capture echo e) (Makes.pure (.askedAgain capture echo))
    | cons b rest => exact Makes.ofResult_map (.inserted capture _ echo (List.cons_ne_nil b rest))
  | awaitingList =>
    refine Makes.quiet_bind (fun e => .unlisted e) fun capture => Makes.send_bind (fun e => .uncancelled capture e) ?_
    refine (resync_calls p.prompt p.config).bind ?_ ?_
    · intro made e resync; exact .unsynced capture e made resync
    · rintro made ⟨⟩ resync
      refine Makes.ofResult_map ?_
      rw [List.append_nil]
      exact .listed capture made resync
  | immediateResolved text => exact Makes.pure (.resolved _ rfl)
  | listResolved output => exact Makes.pure (.resolved _ rfl)

/-- The state that a step leaves a probe in: a step that fails leaves it as it was. -/
def afterStep (state : ProbeState) : HarnessResult ProbeState → ProbeState
  | .ok next => next
  | .error _ => state

/-- A step that succeeds goes on to a next state, if the probe was not finished. -/
theorem StepCalls.moves (calls : StepCalls p state made outcome) (succeeded : outcome = .ok next) :
    state.Next next ∨ state.isResolved = true ∧ next = state := by
  cases calls with
  | typed => cases succeeded; exact .inl .typed
  | asked => cases succeeded; exact .inl .asked
  | inserted =>
    obtain ⟨text,-,rfl⟩ := map_eq_ok.mp succeeded
    exact .inl (.inserted text)
  | askedAgain => cases succeeded; exact .inl .askedAgain
  | listed =>
    obtain ⟨output,-,rfl⟩ := map_eq_ok.mp succeeded
    exact .inl (.listed output)
  | resolved _ finished => cases succeeded; exact .inr ⟨finished,rfl⟩
  | _ => cases succeeded

/-- There is nothing left to do for a finished probe. -/
theorem StepCalls.of_resolved (calls : StepCalls p state made outcome) (finished : state.isResolved = true) :
    made = [] ∧ outcome = .ok state := by
  cases calls with
  | resolved => exact ⟨rfl,rfl⟩
  | _ => cases finished

theorem ResyncCalls.fails {prompt : Prompt} {config : HarnessConfig} {e : HarnessError}
    (calls : ResyncCalls prompt config made (.error e)) : ∃ x ∈ made, ∃ e', x.outcome = .error e' := by
  cases calls <;> simp

/-- A step fails only if a call fails, the echo is missing, or what was captured is not UTF-8. -/
theorem StepCalls.fails {e : HarnessError} (calls : StepCalls p state made outcome) (failed : outcome = .error e) :
    (∃ x ∈ made, ∃ e', x.outcome = .error e') ∨
      (∃ capture, made = [⟨.readUntilQuiet p.config.responseBudget,.ok capture⟩] ∧ p.stripEcho capture = .error e) ∨
      p.encoding = .strict ∧ e.code = .terminalParse := by
  cases calls with
  | notEchoed capture e' echo => cases failed; exact .inr (.inl ⟨capture,rfl,echo⟩)
  | inserted => exact .inr (.inr (Probe.decode_error (map_eq_error.mp failed)))
  | listed => exact .inr (.inr (Probe.decode_error (map_eq_error.mp failed)))
  | unsynced capture e' made resync =>
    obtain ⟨x,among,fails⟩ := resync.fails
    exact .inl ⟨x,List.mem_cons_of_mem _ (List.mem_cons_of_mem _ among),fails⟩
  | _ => simp_all

/-! ## What is sent -/

/-- The bytes of a `send` that succeeded. -/
def Exchange.sent (x : Exchange) : List Bytes :=
  match x.call, x.outcome with
  | .send bytes, .ok _ => [bytes]
  | _, _ => []

/-- What a probe may send in a state. -/
def Probe.key (p : Probe) : ProbeState → Option Bytes
  | .idle => some (Utf8.encode p.input)
  | .probeSent => some [tab]
  | .awaitingImmediate => some [tab]
  | .awaitingList => some [ctrlC]
  | .immediateResolved _ => none
  | .listResolved _ => none

/-- What was sent by a probe that is in a state: the input and each TAB once, in this order, and cancels only
    after the second TAB. -/
def Probe.SentBy (p : Probe) : ProbeState → List Bytes → Prop
  | .idle, sent => sent = []
  | .probeSent, sent => sent = [Utf8.encode p.input]
  | .awaitingImmediate, sent => sent = [Utf8.encode p.input,[tab]]
  | .immediateResolved _, sent => sent = [Utf8.encode p.input,[tab]]
  | .awaitingList, sent => ∃ cancels, sent = [Utf8.encode p.input,[tab],[tab]] ++ List.replicate cancels [ctrlC]
  | .listResolved _, sent =>
    ∃ cancels, 0 < cancels ∧ sent = [Utf8.encode p.input,[tab],[tab]] ++ List.replicate cancels [ctrlC]

theorem ResyncCalls.key {prompt : Prompt} {config : HarnessConfig} {r : HarnessResult Unit} {bytes : Bytes}
    {o : HarnessResult Bytes} (calls : ResyncCalls prompt config made r) (among : ⟨.send bytes,o⟩ ∈ made) :
    bytes = [ctrlC] := by
  cases calls <;> simp [firstWait,secondWait] at among <;> exact among.1

theorem ResyncCalls.sent {prompt : Prompt} {config : HarnessConfig} {r : HarnessResult Unit}
    (calls : ResyncCalls prompt config made r) : ∃ cancels, made.flatMap (·.sent) = List.replicate cancels [ctrlC] := by
  cases calls with
  | found => exact ⟨0,rfl⟩
  | broken => exact ⟨0,rfl⟩
  | uncancelled => exact ⟨0,rfl⟩
  | foundLate => exact ⟨1,rfl⟩
  | lost => exact ⟨1,rfl⟩

/-- In each state only its key is sent, whether that succeeds or not. -/
theorem StepCalls.key {bytes : Bytes} {o : HarnessResult Bytes} (calls : StepCalls p state made outcome)
    (among : ⟨.send bytes,o⟩ ∈ made) : p.key state = some bytes := by
  have cancels {capture : Bytes} {resynced : List Exchange} {r : HarnessResult Unit}
      (resync : ResyncCalls p.prompt p.config resynced r)
      (among : ⟨.send bytes,o⟩ ∈ ⟨.readUntilQuiet p.config.responseBudget,.ok capture⟩ ::
        ⟨.send [ctrlC],.ok []⟩ :: resynced) : bytes = [ctrlC] := by
    simp only [List.mem_cons,Exchange.mk.injEq,reduceCtorEq,false_and,false_or] at among
    rcases among with ⟨same,-⟩ | later
    · cases same; rfl
    · exact resync.key later
  cases calls with
  | unsynced capture e made resync => rw [cancels resync among]; rfl
  | listed capture made resync => rw [cancels resync among]; rfl
  | _ => simp_all [Probe.key]

/-- Nothing is left of a capture just if it is the echo of the input and bells, but for erase pairs. -/
theorem Probe.stripEcho_eq_nil {capture : Bytes} : p.stripEcho capture = .ok [] ↔
    ∃ bells, Text.removeAll erasePair capture = Utf8.encode p.input ++ bells ∧ ∀ b ∈ bells, b = bell := by
  unfold Probe.stripEcho
  dsimp only
  constructor
  · intro nothing
    split at nothing
    next bells echoed =>
      refine ⟨bells,(Text.dropStart?_eq_some_iff.mp echoed).symm,?_⟩
      simpa [List.filter_eq_nil_iff] using nothing
    next => cases nothing
  · rintro ⟨bells,echoed,each⟩
    rw [Text.dropStart?_eq_some_iff.mpr echoed.symm]
    simpa [List.filter_eq_nil_iff] using each

/-- TAB is sent again only after a capture of the echo with nothing but bells after it. -/
theorem StepCalls.secondTab {bytes : Bytes} {o : HarnessResult Bytes}
    (calls : StepCalls p .awaitingImmediate made outcome) (among : ⟨.send bytes,o⟩ ∈ made) :
    ∃ capture, made = [⟨.readUntilQuiet p.config.responseBudget,.ok capture⟩,⟨.send [tab],o⟩] ∧
      p.stripEcho capture = .ok [] := by
  cases calls with
  | unaskedAgain capture echo e => exact ⟨capture,by simp_all,echo⟩
  | askedAgain capture echo => exact ⟨capture,by simp_all,echo⟩
  | resolved _ finished => cases finished
  | _ => simp at among

/-- A step adds to what was sent what its next state needs, and nothing if it fails but cancels of a list. -/
theorem StepCalls.sentBy {earlier : List Bytes} (calls : StepCalls p state made outcome)
    (sent : p.SentBy state earlier) : p.SentBy (afterStep state outcome) (earlier ++ made.flatMap (·.sent)) := by
  have failed {calls : List Exchange} (nothing : calls.flatMap (·.sent) = []) :
      p.SentBy state (earlier ++ calls.flatMap (·.sent)) := by
    rwa [nothing,List.append_nil]
  have cancelled (cancels more : Nat) : [Utf8.encode p.input,[tab],[tab]] ++ List.replicate cancels [ctrlC] ++
      ([ctrlC] :: List.replicate more [ctrlC]) =
      [Utf8.encode p.input,[tab],[tab]] ++ List.replicate (cancels + (more + 1)) [ctrlC] := by
    rw [List.append_assoc,← List.replicate_succ,List.replicate_append_replicate]
  cases calls with
  | untyped => exact failed rfl
  | typed => cases sent; rfl
  | unasked => exact failed rfl
  | asked => cases sent; rfl
  | unread => exact failed rfl
  | notEchoed => exact failed rfl
  | inserted capture rest =>
    cases reads : p.encoding.decode rest with
    | error e => exact failed rfl
    | ok text => cases sent; rfl
  | unaskedAgain => exact failed rfl
  | askedAgain => cases sent; exact ⟨0,rfl⟩
  | unlisted => exact failed rfl
  | uncancelled => exact failed rfl
  | unsynced capture e made resync =>
    obtain ⟨cancels,rfl⟩ := sent
    obtain ⟨more,again⟩ := resync.sent
    exact ⟨_,again ▸ cancelled cancels more⟩
  | listed capture made resync =>
    obtain ⟨cancels,rfl⟩ := sent
    obtain ⟨more,again⟩ := resync.sent
    cases reads : p.encoding.decode (if capture = [bell] then [] else capture) with
    | error e => exact ⟨_,again ▸ cancelled cancels more⟩
    | ok output => exact ⟨_,by omega,again ▸ cancelled cancels more⟩
  | resolved => exact failed rfl

/-- A step that was tried in a state, the exchanges that it made, and its outcome. -/
structure Attempt where
  before : ProbeState
  made : List Exchange
  outcome : HarnessResult ProbeState

namespace Attempt

/-- The state after the step. -/
def after (a : Attempt) : ProbeState := afterStep a.before a.outcome

/-- What the step sent. -/
def sent (a : Attempt) : List Bytes := a.made.flatMap (·.sent)

end Attempt

/-- The state that attempts lead to. -/
def lastState : ProbeState → List Attempt → ProbeState
  | state, [] => state
  | _, a :: history => lastState a.after history

/-- So many steps, on the terminal as the one before left it, whether that succeeded or not. -/
def Probe.attempts (p : Probe) : Nat → ProbeState → σ → List Attempt
  | 0, _, _ => []
  | n + 1, state, t =>
    let (outcome, t') := (p.step state).run t
    let observed := ((p.step state).run (⟨t,[]⟩ : Observed σ)).2
    ⟨state,observed.exchanges,outcome⟩ :: p.attempts n (afterStep state outcome) t'

/-- Attempts from a state on, each of them from where the one before ended. -/
inductive Tried (p : Probe) : ProbeState → List Attempt → Prop where
  | none (state : ProbeState) : Tried p state []
  | more {history : List Attempt} (a : Attempt) (calls : StepCalls p a.before a.made a.outcome)
      (later : Tried p a.after history) : Tried p a.before (a :: history)

variable {history : List Attempt}

theorem Probe.tried_attempts (p : Probe) (n : Nat) (state : ProbeState) (t : σ) :
    Tried p state (p.attempts n state t) := by
  induction n generalizing state t with
  | zero => exact .none state
  | succ n ih =>
    obtain ⟨made,ran,calls⟩ := p.step_calls state ⟨t,[]⟩
    rw [attempts,ran]
    exact .more ⟨state,made,_⟩ calls (ih _ _)

theorem Tried.calls (tried : Tried p state history) : ∀ a ∈ history, StepCalls p a.before a.made a.outcome := by
  induction tried with
  | none => exact List.forall_mem_nil _
  | more a calls later ih => exact List.forall_mem_cons.mpr ⟨calls,ih⟩

/-- How far a probe is, is how much it sent. -/
theorem Tried.sentBy (tried : Tried p state history) (earlier : List Bytes) (sent : p.SentBy state earlier) :
    p.SentBy (lastState state history) (earlier ++ history.flatMap (·.sent)) := by
  induction tried generalizing earlier with
  | none => rwa [List.flatMap_nil,List.append_nil]
  | more a calls later ih =>
    rw [List.flatMap_cons,← List.append_assoc]
    exact ih _ (calls.sentBy sent)

/-- How many steps are left in a state, at most. -/
def ProbeState.remaining : ProbeState → Nat
  | .idle => 4
  | .probeSent => 3
  | .awaitingImmediate => 2
  | .awaitingList => 1
  | .immediateResolved _ => 0
  | .listResolved _ => 0

theorem ProbeState.remaining_eq_zero : state.remaining = 0 ↔ state.isResolved = true := by
  cases state <;> simp [remaining,isResolved]

theorem ProbeState.Next.remaining_lt (moves : state.Next next) : next.remaining < state.remaining := by
  cases moves <;> simp [remaining]

/-- A step that succeeds leaves a step less, or none at all. -/
theorem StepCalls.remaining_le (calls : StepCalls p state made (.ok next)) : next.remaining ≤ state.remaining - 1 := by
  rcases calls.moves rfl with moves | ⟨finished,rfl⟩
  · exact Nat.le_pred_of_lt moves.remaining_lt
  · rw [ProbeState.remaining_eq_zero.mpr finished]

theorem Tried.resolves (tried : Tried p state history) (enough : state.remaining ≤ history.length)
    (succeeded : ∀ a ∈ history, ∃ next, a.outcome = .ok next) : (lastState state history).isResolved = true := by
  induction tried with
  | none => exact ProbeState.remaining_eq_zero.mp (Nat.le_zero.mp enough)
  | more a calls later ih =>
    obtain ⟨⟨next,ok⟩,others⟩ := List.forall_mem_cons.mp succeeded
    refine ih ?_ others
    have left := (ok ▸ calls).remaining_le
    rw [List.length_cons] at enough
    rw [Attempt.after,ok,afterStep]
    omega

theorem Probe.remaining_of_step {t t' : σ} (ran : (p.step state).run t = (.ok next, t')) :
    next.remaining ≤ state.remaining - 1 := by
  obtain ⟨made,-,calls⟩ := p.step_calls state ⟨t,[]⟩
  rw [ran] at calls
  exact calls.remaining_le

/-- More steps than are left change nothing. -/
theorem Probe.run_advance_enough {n m : Nat} (t : σ) (enough : state.remaining ≤ n) (alsoEnough : state.remaining ≤ m) :
    (p.advance n state).run t = (p.advance m state).run t := by
  induction n generalizing m state t with
  | zero =>
    have finished := ProbeState.remaining_eq_zero.mp (Nat.le_zero.mp enough)
    rw [p.advance_resolved 0 state finished,p.advance_resolved m state finished]
  | succ n ih =>
    by_cases finished : state.isResolved = true
    · rw [p.advance_resolved _ state finished,p.advance_resolved m state finished]
    have unfinished : state.isResolved = false := by simpa using finished
    have stepsLeft : state.remaining ≠ 0 := fun zero => finished (ProbeState.remaining_eq_zero.mp zero)
    obtain ⟨m,rfl⟩ := Nat.exists_eq_succ_of_ne_zero (show m ≠ 0 by omega)
    rw [p.advance_unresolved n state unfinished,p.advance_unresolved m state unfinished,
      Dialogue.run_bind,Dialogue.run_bind]
    cases ran : (p.step state).run t with
    | mk outcome t' =>
    cases outcome with
    | error e => rfl
    | ok next =>
      have left := Probe.remaining_of_step ran
      exact ih t' (by omega) (by omega)

/-- A probe that goes on as long as it can, and does not fail, is finished. -/
theorem Probe.resolved_of_advance {n : Nat} {t t' : σ} (enough : state.remaining ≤ n)
    (ran : (p.advance n state).run t = (.ok last, t')) : last.isResolved = true := by
  induction n generalizing state t with
  | zero =>
    cases ran
    exact ProbeState.remaining_eq_zero.mp (Nat.le_zero.mp enough)
  | succ n ih =>
    by_cases finished : state.isResolved = true
    · rw [p.advance_resolved _ state finished] at ran
      cases ran
      exact finished
    · rw [p.advance_unresolved n state (by simpa using finished)] at ran
      obtain ⟨next,u,steps,goesOn⟩ := Dialogue.run_bind_eq_ok.mp ran
      have left := Probe.remaining_of_step steps
      exact ih (by omega) goesOn

/-! ## Every history -/

/-- What is true of steps that were tried one after the other from the start of a probe. -/
structure Probe.Delivered (p : Probe) (history : List Attempt) : Prop where
  /-- A step that succeeds goes on to a next state. -/
  forward : ∀ a ∈ history, a.before.isResolved = false → ∀ next, a.outcome = .ok next →
    a.after = next ∧ a.before.Next next
  /-- A step that fails leaves the state as it was. It fails only if a call fails, the echo is missing, or
      what was captured is not UTF-8. -/
  failed : ∀ a ∈ history, ∀ e, a.outcome = .error e → a.after = a.before ∧
    ((∃ x ∈ a.made, ∃ e', x.outcome = .error e') ∨
      (∃ capture, a.made = [⟨.readUntilQuiet p.config.responseBudget,.ok capture⟩] ∧
        p.stripEcho capture = .error e) ∨
      p.encoding = .strict ∧ e.code = .terminalParse)
  /-- A finished probe makes no call and stays as it is. -/
  finished : ∀ a ∈ history, a.before.isResolved = true → a.made = [] ∧ a.outcome = .ok a.before
  /-- What is sent in a state, or was to be sent, is its key. -/
  key : ∀ a ∈ history, ∀ bytes o, ⟨.send bytes,o⟩ ∈ a.made → p.key a.before = some bytes
  /-- How far the probe is, is what it sent. -/
  sent : p.SentBy (lastState .idle history) (history.flatMap Attempt.sent)
  /-- The second TAB comes right after a capture that is the echo of the input with nothing but bells after
      it, when the erase pairs are out. -/
  secondTab : ∀ a ∈ history, a.before = .awaitingImmediate → ∀ bytes o, ⟨.send bytes,o⟩ ∈ a.made →
    ∃ capture bells, a.made = [⟨.readUntilQuiet p.config.responseBudget,.ok capture⟩,⟨.send [tab],o⟩] ∧
      Text.removeAll erasePair capture = Utf8.encode p.input ++ bells ∧ ∀ b ∈ bells, b = bell
  /-- Four steps without a failure are enough. -/
  resolves : 4 ≤ history.length → (∀ a ∈ history, ∃ next, a.outcome = .ok next) →
    (lastState .idle history).isResolved = true

theorem Tried.delivered (tried : Tried p .idle history) : p.Delivered history where
  forward a among unfinished next ok := by
    refine ⟨by rw [Attempt.after,ok]; rfl,?_⟩
    rcases (tried.calls a among).moves ok with moves | ⟨finished,-⟩
    · exact moves
    · rw [unfinished] at finished
      cases finished
  failed a among e fails := ⟨by rw [Attempt.after,fails]; rfl,(tried.calls a among).fails fails⟩
  finished a among done := (tried.calls a among).of_resolved done
  key a among bytes o sends := (tried.calls a among).key sends
  sent := tried.sentBy [] rfl
  secondTab a among waiting bytes o sends := by
    have calls := tried.calls a among
    rw [waiting] at calls
    obtain ⟨capture,made,nothing⟩ := calls.secondTab sends
    obtain ⟨bells,echoed,each⟩ := Probe.stripEcho_eq_nil.mp nothing
    exact ⟨capture,bells,made,echoed,each⟩
  resolves enough succeeded := tried.resolves enough succeeded

/-- Steps that are tried on any transport, whatever came of those before, deliver every key once. A probe
    that runs stops after four steps, finished or with a failure. -/
theorem Probe.steps_deliver_once (p : Probe) (t : σ) :
    (∀ n, p.Delivered (p.attempts n .idle t)) ∧
    ∀ n, 4 ≤ n → (p.advance n .idle).run t = (p.advance stepLimit .idle).run t ∧
      ∀ state t', (p.advance n .idle).run t = (.ok state, t') → state.isResolved = true := by
  refine ⟨fun n => (p.tried_attempts n .idle t).delivered,fun n enough => ⟨?_,?_⟩⟩
  · exact run_advance_enough t enough (Nat.le_refl 4)
  · intro state t' ran
    exact resolved_of_advance enough ran

end TabCompletion
