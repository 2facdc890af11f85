import TabCompletion.Proofs.Transport.Awaiting
import TabCompletion.Transport.Polled

/-!
# The bytes of polled lines

A line is tapped to keep what it answered. Reads of it that returned, one after the other, have lost
nothing: its data was returned, in order, or is pending. Only a wait for a match that the end of the line
breaks off drops bytes, and a line that has ended is not asked again (`polled_reads_keep_bytes`).
-/
namespace TabCompletion

/-- The bytes of an answer; only data has any. -/
def Chunk.bytes : Chunk → Bytes
  | .data bytes => bytes
  | .idle => []
  | .closed => []

/-- The data of answers, in order. -/
def dataOf (answers : List Chunk) : Bytes := answers.flatMap Chunk.bytes

@[simp] theorem dataOf_nil : dataOf [] = [] := rfl

@[simp] theorem dataOf_cons (chunk : Chunk) (rest : List Chunk) : dataOf (chunk :: rest) = chunk.bytes ++ dataOf rest := rfl

@[simp] theorem dataOf_append (xs ys : List Chunk) : dataOf (xs ++ ys) = dataOf xs ++ dataOf ys := List.flatMap_append

/-- A line and all that it answered. -/
structure Tapped (δ : Type) where
  line : δ
  answers : List Chunk := []

instance {δ : Type} [Line δ] : Line (Tapped δ) where
  ask t := ((Line.ask t.line).1, ⟨(Line.ask t.line).2,t.answers ++ [(Line.ask t.line).1]⟩)
  time t := ((Line.time t.line).1, { t with line := (Line.time t.line).2 })
  pause time t := { t with line := Line.pause time t.line }

/-- A read of a polled line. -/
inductive Read where
  | untilQuiet (quiet : Nat)
  | untilMatch (pattern : Pattern) (timeout : Nat)

/-- What a read does if it returns before the line was asked more often than so many times. -/
def Read.run {δ : Type} [Line δ] (rounds : Nat) (p : Polled δ) : Read → Option (HarnessResult Bytes × Polled δ)
  | untilQuiet quiet => p.readUntilQuiet rounds quiet
  | untilMatch pattern timeout => p.readUntilMatch rounds pattern timeout

namespace Polled

variable {δ : Type} {p q r : Polled (Tapped δ)} {came more : List Chunk}

/-- The line without what it answered. -/
def untapped (p : Polled (Tapped δ)) : Polled δ := { p with line := p.line.line }

/-- It is known that a line has ended as soon as it answers so, and that is its last answer. -/
structure Informed (p : Polled (Tapped δ)) : Prop where
  ended : p.ended = true ↔ .closed ∈ p.line.answers
  last : .closed ∉ p.line.answers.dropLast

theorem Informed.pending (informed : p.Informed) (bytes : Bytes) : Informed { p with pending := bytes } :=
  ⟨informed.ended,informed.last⟩

/-- Nothing was answered after the end. -/
theorem Informed.at_end (informed : p.Informed) {earlier later : List Chunk}
    (split : p.line.answers = earlier ++ .closed :: later) : later = [] := by
  have last := informed.last
  rcases List.eq_nil_or_concat later with empty | ⟨others,chunk,concat⟩
  · exact empty
  · rw [split,concat,List.concat_eq_append,← List.cons_append,← List.append_assoc,List.dropLast_concat] at last
    exact absurd (List.mem_append_right earlier List.mem_cons_self) last

theorem Informed.no_more (informed : q.Informed) (answers : q.line.answers = p.line.answers ++ came)
    (closed : .closed ∈ p.line.answers) : came = [] := by
  obtain ⟨earlier,later,split⟩ := List.append_of_mem closed
  rw [split,List.append_assoc,List.cons_append] at answers
  exact (List.append_eq_nil_iff.mp (informed.at_end answers)).2

/-- The line gave these answers in between; what is pending stayed. -/
structure Heard (p : Polled (Tapped δ)) (answers : List Chunk) (q : Polled (Tapped δ)) : Prop where
  answers : q.line.answers = p.line.answers ++ answers
  pending : q.pending = p.pending
  informed : p.Informed → q.Informed

theorem Heard.refl (p : Polled (Tapped δ)) : Heard p [] p := ⟨(List.append_nil _).symm,rfl,id⟩

theorem Heard.trans (first : Heard p came q) (later : Heard q more r) : Heard p (came ++ more) r where
  answers := by rw [later.answers,first.answers,List.append_assoc]
  pending := later.pending.trans first.pending
  informed := fun informed => later.informed (first.informed informed)

/-- How a wait for a match ends, by the answers that came in between. -/
inductive Waited (pattern : Pattern) (timeout : Nat) (received : Bytes) (p : Polled (Tapped δ)) :
    HarnessResult Bytes × Polled (Tapped δ) → Prop where
  | found {answers : List Chunk} {q : Polled (Tapped δ)} {upTo after : Bytes} (heard : Heard p answers q)
      (split : pattern.splitAfter? (received ++ dataOf answers) = some (upTo, after)) :
      Waited pattern timeout received p (.ok upTo, { q with pending := after })
  | late {answers : List Chunk} {q : Polled (Tapped δ)} (heard : Heard p answers q) (going : q.ended = false) :
      Waited pattern timeout received p (.error (Transport.noPromptInTime pattern timeout (received ++ dataOf answers)),
        { q with pending := received ++ dataOf answers })
  | finished {answers : List Chunk} {q : Polled (Tapped δ)} (heard : Heard p answers q) (ended : q.ended = true)
      (unfound : pattern.splitAfter? (received ++ dataOf answers) = none) :
      Waited pattern timeout received p (.error (Transport.closedBeforePrompt (received ++ dataOf answers)), q)

/-- Answers that come first belong to the wait. -/
theorem Waited.after {pattern : Pattern} {timeout : Nat} {received : Bytes} {outcome : HarnessResult Bytes × Polled (Tapped δ)}
    (waited : Waited pattern timeout (received ++ dataOf came) q outcome) (first : Heard p came q) :
    Waited pattern timeout received p outcome := by
  cases waited with
  | found heard split =>
    rw [List.append_assoc,← dataOf_append] at split
    exact .found (first.trans heard) split
  | late heard going =>
    rw [List.append_assoc,← dataOf_append]
    exact .late (first.trans heard) going
  | finished heard ended unfound =>
    rw [List.append_assoc,← dataOf_append] at unfound ⊢
    exact .finished (first.trans heard) ended unfound

variable [Line δ]

theorem heard_time (p : Polled (Tapped δ)) : Heard p [] p.time.2 := ⟨(List.append_nil _).symm,rfl,fun h => ⟨h.ended,h.last⟩⟩

theorem heard_pause (p : Polled (Tapped δ)) : Heard p [] p.pause := ⟨(List.append_nil _).symm,rfl,fun h => ⟨h.ended,h.last⟩⟩

/-- A question is one answer more, unless the line has ended; then there is none. -/
theorem heard_ask (p : Polled (Tapped δ)) :
    ∃ answers, Heard p answers p.ask.2 ∧ dataOf answers = p.ask.1.bytes ∧ (p.ask.1 = .closed ↔ p.ask.2.ended = true) := by
  by_cases ended : p.ended = true
  · have asked : p.ask = (.closed, p) := by simp [Polled.ask,ended]
    rw [asked]
    exact ⟨[],.refl p,rfl,by simp [ended]⟩
  · have asked : p.ask = ((Line.ask p.line).1,
        { p with line := (Line.ask p.line).2, ended := (Line.ask p.line).1 == .closed }) := by simp [Polled.ask,ended]
    have kept : (Line.ask p.line).2.answers = p.line.answers ++ [(Line.ask p.line).1] := rfl
    rw [asked]
    refine ⟨[(Line.ask p.line).1],⟨kept,rfl,fun informed => ?_⟩,by simp,by simp⟩
    have going : .closed ∉ p.line.answers := fun closed => ended (informed.ended.mpr closed)
    constructor
    · simp only [kept,List.mem_append,going,false_or,List.mem_singleton,beq_iff_eq]
      exact eq_comm
    · simpa [kept] using going

/-! ## Reads -/

/-- The line after a read took the time and all that was pending. -/
def opened {δ : Type} [Line δ] (p : Polled δ) : Polled δ := { p.time.2 with pending := [] }

theorem run_untilQuiet (quiet rounds : Nat) (p : Polled δ) : Read.run rounds p (.untilQuiet quiet) =
    (receiveUntilQuiet quiet rounds p.pending p.time.1 p.opened).map fun (received, q) =>
      (if received.isEmpty && q.ended then .error Transport.closedBeforeResponse else .ok received, q) := rfl

theorem run_untilMatch (pattern : Pattern) (timeout rounds : Nat) (p : Polled δ) :
    Read.run rounds p (.untilMatch pattern timeout) =
      receiveUntilMatch pattern timeout (p.time.1 + timeout) rounds p.pending p.opened := rfl

/-- A wait for silence returns what it had and all data that came. -/
theorem receiveUntilQuiet_heard {quiet rounds last : Nat} {received bytes : Bytes}
    (ran : receiveUntilQuiet quiet rounds received last p = some (bytes, q)) :
    ∃ answers, Heard p answers q ∧ bytes = received ++ dataOf answers := by
  induction rounds generalizing received last p with
  | zero => cases ran
  | succ rounds ih =>
    obtain ⟨asked,heard,data,-⟩ := heard_ask p
    rw [receiveUntilQuiet] at ran
    generalize p.ask = answer at ran heard data
    obtain ⟨chunk,p'⟩ := answer
    cases chunk with
    | data came =>
      obtain ⟨more,later,all⟩ := ih ran
      refine ⟨asked ++ more,heard.trans ((heard_time p').trans later),?_⟩
      rw [all,dataOf_append,data,List.append_assoc]
      rfl
    | closed =>
      cases ran
      exact ⟨asked,heard,by rw [data]; exact (List.append_nil _).symm⟩
    | idle =>
      have timed := heard.trans (heard_time p')
      rw [List.append_nil] at timed
      dsimp only at ran
      split at ran
      next silent =>
        cases ran
        exact ⟨asked,timed,by rw [data]; exact (List.append_nil _).symm⟩
      next =>
        obtain ⟨more,later,all⟩ := ih ran
        refine ⟨asked ++ more,timed.trans ((heard_pause _).trans later),?_⟩
        rw [all,dataOf_append,data]
        rfl

theorem receiveUntilMatch_found {pattern : Pattern} {timeout deadline rounds : Nat} {received upTo after : Bytes}
    (p : Polled δ) (split : pattern.splitAfter? received = some (upTo, after)) :
    receiveUntilMatch pattern timeout deadline (rounds + 1) received p = some (.ok upTo, { p with pending := after }) := by
  rw [receiveUntilMatch,split]

/-- One round of a wait for a match that was not found so far. -/
theorem receiveUntilMatch_succ {pattern : Pattern} {timeout deadline rounds : Nat} {received : Bytes} (p : Polled δ)
    (unfound : pattern.splitAfter? received = none) :
    receiveUntilMatch pattern timeout deadline (rounds + 1) received p =
      if p.ask.1 = .closed then some (.error (Transport.closedBeforePrompt received), p.ask.2)
      else if deadline ≤ p.ask.2.time.1 then
        some (.error (Transport.noPromptInTime pattern timeout (received ++ p.ask.1.bytes)),
          { p.ask.2.time.2 with pending := received ++ p.ask.1.bytes })
      else
        receiveUntilMatch pattern timeout deadline rounds (received ++ p.ask.1.bytes)
          (if p.ask.1 = .idle then p.ask.2.time.2.pause else p.ask.2.time.2) := by
  rw [receiveUntilMatch,unfound]
  generalize p.ask = answer
  obtain ⟨chunk,p'⟩ := answer
  cases chunk with
  | data bytes => simp [Chunk.bytes]
  | idle => simp [Chunk.bytes]
  | closed => simp

theorem receiveUntilMatch_waited {pattern : Pattern} {timeout deadline rounds : Nat} {received : Bytes}
    {outcome : HarnessResult Bytes × Polled (Tapped δ)}
    (ran : receiveUntilMatch pattern timeout deadline rounds received p = some outcome) :
    Waited pattern timeout received p outcome := by
  induction rounds generalizing received p with
  | zero => cases ran
  | succ rounds ih =>
    cases split : pattern.splitAfter? received with
    | some parts =>
      rw [receiveUntilMatch_found p split] at ran
      cases ran
      exact .found (.refl p) (by simpa using split)
    | none =>
    obtain ⟨asked,heard,data,ends⟩ := heard_ask p
    have timed := heard.trans (heard_time p.ask.2)
    rw [List.append_nil] at timed
    rw [receiveUntilMatch_succ p split,← data] at ran
    by_cases closed : p.ask.1 = .closed
    · have nothing : received ++ dataOf asked = received := by rw [data,closed]; exact List.append_nil _
      rw [if_pos closed] at ran
      cases ran
      rw [← nothing] at split
      have finished : Waited pattern timeout received p _ := .finished heard (ends.mp closed) split
      rwa [nothing] at finished
    rw [if_neg closed] at ran
    split at ran
    next passed =>
      cases ran
      exact .late timed (Bool.eq_false_iff.mpr fun ended => closed (ends.mpr ended))
    next =>
      -- Whether there is a pause or not, the line answers nothing before the next round.
      have next := ih ran
      split at next
      · exact next.after (by simpa using timed.trans (heard_pause _))
      · exact next.after timed

@[simp] theorem ask_untapped (p : Polled (Tapped δ)) : p.untapped.ask = (p.ask.1, p.ask.2.untapped) := by
  by_cases ended : p.ended = true
  · simp [untapped,Polled.ask,ended]
  · simp only [untapped,Polled.ask,ended]
    rfl

theorem receiveUntilQuiet_untapped (quiet rounds : Nat) (received : Bytes) (last : Nat) (p : Polled (Tapped δ)) :
    receiveUntilQuiet quiet rounds received last p.untapped =
      (receiveUntilQuiet quiet rounds received last p).map (Prod.map id untapped) := by
  induction rounds generalizing received last p with
  | zero => rfl
  | succ rounds ih =>
    rw [receiveUntilQuiet,receiveUntilQuiet,ask_untapped]
    generalize p.ask = answer
    obtain ⟨chunk,p'⟩ := answer
    have timed : p'.untapped.time = (p'.time.1, p'.time.2.untapped) := rfl
    cases chunk with
    | data bytes => exact ih (received ++ bytes) p'.time.1 p'.time.2
    | closed => rfl
    | idle =>
      dsimp only
      rw [timed]
      split
      next => rfl
      next => exact ih received last p'.time.2.pause

theorem receiveUntilMatch_untapped (pattern : Pattern) (timeout deadline rounds : Nat) (received : Bytes)
    (p : Polled (Tapped δ)) :
    receiveUntilMatch pattern timeout deadline rounds received p.untapped =
      (receiveUntilMatch pattern timeout deadline rounds received p).map (Prod.map id untapped) := by
  induction rounds generalizing received p with
  | zero => rfl
  | succ rounds ih =>
    cases split : pattern.splitAfter? received with
    | some parts =>
      rw [receiveUntilMatch_found _ split,receiveUntilMatch_found _ split]
      rfl
    | none =>
    have timed : p.ask.2.untapped.time = (p.ask.2.time.1, p.ask.2.time.2.untapped) := rfl
    have paused : p.ask.2.time.2.untapped.pause = p.ask.2.time.2.pause.untapped := rfl
    rw [receiveUntilMatch_succ _ split,receiveUntilMatch_succ _ split,ask_untapped]
    dsimp only
    rw [timed]
    by_cases closed : p.ask.1 = .closed
    · rw [if_pos closed,if_pos closed]
      rfl
    by_cases passed : deadline ≤ p.ask.2.time.1
    · rw [if_neg closed,if_neg closed,if_pos passed,if_pos passed]
      rfl
    rw [if_neg closed,if_neg closed,if_neg passed,if_neg passed,← ih]
    congr 1
    split
    next => exact paused
    next => rfl

/-- A tapped line is read as the line is. -/
theorem run_untapped (read : Read) (rounds : Nat) (p : Polled (Tapped δ)) :
    read.run rounds p.untapped = (read.run rounds p).map (Prod.map id untapped) := by
  cases read with
  | untilQuiet quiet =>
    have same := receiveUntilQuiet_untapped quiet rounds p.pending p.time.1 p.opened
    rw [run_untilQuiet,run_untilQuiet,Option.map_map]
    exact (congrArg (Option.map _) same).trans (Option.map_map _ _ _)
  | untilMatch pattern timeout =>
    exact receiveUntilMatch_untapped pattern timeout (p.time.1 + timeout) rounds p.pending p.opened

/-- A read that returned: the line before it, what was read or went wrong, and the line after it. -/
structure Entry (δ : Type) where
  read : Read
  before : Polled (Tapped δ)
  outcome : HarnessResult Bytes
  after : Polled (Tapped δ)

/-- Reads that returned, one after the other. -/
inductive Returned : Polled (Tapped δ) → List (Entry δ) → Polled (Tapped δ) → Prop where
  | nil (p : Polled (Tapped δ)) : Returned p [] p
  | cons {p q r : Polled (Tapped δ)} {read : Read} {rounds : Nat} {outcome : HarnessResult Bytes} {entries : List (Entry δ)}
      (ran : read.run rounds p = some (outcome, q)) (later : Returned q entries r) :
      Returned p (⟨read,p,outcome,q⟩ :: entries) r

namespace Entry

variable {δ : Type} {x : Entry δ}

/-- The answers that the line gave during the read. -/
def answers (x : Entry δ) : List Chunk := x.after.line.answers.drop x.before.line.answers.length

/-- All that was there to be read: what was pending and what came. -/
def received (x : Entry δ) : Bytes := x.before.pending ++ dataOf x.answers

/-- The bytes that the read returned, if it did not fail. -/
def returned (x : Entry δ) : Bytes :=
  match x.outcome with
  | .ok bytes => bytes
  | .error _ => []

/-- The read failed because the line has ended. -/
def FailsClosed (x : Entry δ) : Prop := ∃ e, x.outcome = .error e ∧ e.code = .streamClosed

/-- The end of the line broke a wait for a match off. -/
def Drops (x : Entry δ) : Prop := x.FailsClosed ∧ ∃ pattern timeout, x.read = .untilMatch pattern timeout

/-- A wait for silence returns all that was received, and fails just if the line has ended and there is
    nothing. A wait for a match returns the bytes up to the end of the first match in all of it and leaves the
    rest pending; out of time, it leaves everything pending. -/
def Exact (x : Entry δ) : Prop :=
  match x.read with
  | .untilQuiet _ =>
    (x.FailsClosed ↔ .closed ∈ x.after.line.answers ∧ x.received = []) ∧ (¬x.FailsClosed → x.outcome = .ok x.received)
  | .untilMatch pattern _ =>
    (∀ bytes, x.outcome = .ok bytes → ∃ first last, pattern.find? x.received = some (first, last) ∧
      bytes = x.received.take last ∧ x.after.pending = x.received.drop last) ∧
    (∀ e, x.outcome = .error e → (e.code = .timeout ∧ x.after.pending = x.received) ∨
      (e.code = .streamClosed ∧ .closed ∈ x.after.line.answers))

/-- A read with nothing to read fails because the line has ended; only a pattern that matches no bytes at
    all is found. -/
def Fruitless (x : Entry δ) : Prop :=
  match x.read with
  | .untilQuiet _ => x.FailsClosed
  | .untilMatch pattern _ => if (pattern.find? []).isSome then x.outcome = .ok [] else x.FailsClosed

end Entry

/-- How a read ends, by all that was received for it and what is pending after it. -/
inductive Ends (received : Bytes) (ended : Bool) : Read → HarnessResult Bytes → Bytes → Prop where
  | silence {quiet : Nat} (fruitful : ¬(received = [] ∧ ended = true)) : Ends received ended (.untilQuiet quiet) (.ok received) []
  | nothing {quiet : Nat} (empty : received = []) (finished : ended = true) :
      Ends received ended (.untilQuiet quiet) (.error Transport.closedBeforeResponse) []
  | found {pattern : Pattern} {timeout : Nat} {upTo after : Bytes} (split : pattern.splitAfter? received = some (upTo, after)) :
      Ends received ended (.untilMatch pattern timeout) (.ok upTo) after
  | late {pattern : Pattern} {timeout : Nat} (going : ended = false) :
      Ends received ended (.untilMatch pattern timeout) (.error (Transport.noPromptInTime pattern timeout received)) received
  | finished {pattern : Pattern} {timeout : Nat} (finished : ended = true) (unfound : pattern.splitAfter? received = none) :
      Ends received ended (.untilMatch pattern timeout) (.error (Transport.closedBeforePrompt received)) []

/-- What is known of a read that returned. -/
structure Entry.Known {δ : Type} (x : Entry δ) : Prop where
  answers : x.after.line.answers = x.before.line.answers ++ x.answers
  ends : Ends x.received x.after.ended x.read x.outcome x.after.pending
  informed : x.before.Informed → x.after.Informed

theorem Entry.known_of_answers {δ : Type} {x : Entry δ} {answers : List Chunk}
    (more : x.after.line.answers = x.before.line.answers ++ answers)
    (ends : Ends (x.before.pending ++ dataOf answers) x.after.ended x.read x.outcome x.after.pending)
    (informed : x.before.Informed → x.after.Informed) : x.Known := by
  have same : x.answers = answers := by rw [Entry.answers,more,List.drop_left]
  exact ⟨by rw [same,more],by rw [Entry.received,same]; exact ends,informed⟩

theorem opened_informed (informed : p.Informed) : p.opened.Informed := ⟨informed.ended,informed.last⟩

theorem known_of_run {read : Read} {rounds : Nat} {outcome : HarnessResult Bytes} (ran : read.run rounds p = some (outcome, q)) :
    (⟨read,p,outcome,q⟩ : Entry δ).Known := by
  cases read with
  | untilQuiet quiet =>
    rw [run_untilQuiet] at ran
    obtain ⟨⟨received,p'⟩,waited,result⟩ := Option.map_eq_some_iff.mp ran
    obtain ⟨came,heard,all⟩ := receiveUntilQuiet_heard waited
    have pending : p'.pending = [] := heard.pending
    cases result
    refine Entry.known_of_answers heard.answers ?_ fun informed => heard.informed (opened_informed informed)
    rw [← all,pending]
    by_cases nothing : received = [] ∧ q.ended = true
    · rw [if_pos (by simp [nothing])]
      exact .nothing nothing.1 nothing.2
    · rw [if_neg (by simpa using nothing)]
      exact .silence nothing
  | untilMatch pattern timeout =>
    rw [run_untilMatch] at ran
    cases receiveUntilMatch_waited ran with
    | found heard split =>
      exact Entry.known_of_answers heard.answers (.found split) fun informed =>
        (heard.informed (opened_informed informed)).pending _
    | late heard going =>
      exact Entry.known_of_answers heard.answers (.late going) fun informed =>
        (heard.informed (opened_informed informed)).pending _
    | finished heard ended unfound =>
      refine Entry.known_of_answers heard.answers ?_ fun informed => heard.informed (opened_informed informed)
      have pending : q.pending = [] := heard.pending
      rw [pending]
      exact .finished ended unfound

/-! ## What reads keep -/

section Kept

variable {δ : Type} {x : Entry δ}

theorem Entry.Known.exact (known : x.Known) (informed : x.before.Informed) : x.Exact := by
  have finished := (known.informed informed).ended
  have ends := known.ends
  unfold Entry.Exact Entry.FailsClosed
  generalize x.received = received, x.read = read, x.outcome = outcome, x.after.pending = pending at ends ⊢
  cases ends with
  | silence fruitful =>
    have succeeds : ¬∃ e : HarnessError, (.ok received : HarnessResult Bytes) = .error e ∧ e.code = .streamClosed := by
      rintro ⟨e,failed,-⟩
      cases failed
    refine ⟨⟨fun failed => absurd failed succeeds,?_⟩,fun _ => rfl⟩
    rintro ⟨closed,nothing⟩
    exact absurd ⟨nothing,finished.mpr closed⟩ fruitful
  | nothing empty ended =>
    exact ⟨⟨fun _ => ⟨finished.mp ended,empty⟩,fun _ => ⟨_,rfl,rfl⟩⟩,fun succeeds => absurd ⟨_,rfl,rfl⟩ succeeds⟩
  | found split =>
    obtain ⟨⟨first,last⟩,found,parts⟩ := Option.map_eq_some_iff.mp split
    cases parts
    refine ⟨?_,fun e failed => by cases failed⟩
    rintro bytes same
    cases same
    exact ⟨first,last,found,rfl,rfl⟩
  | late going =>
    refine ⟨fun bytes same => (by cases same),?_⟩
    rintro e same
    cases same
    exact .inl ⟨rfl,rfl⟩
  | finished ended unfound =>
    refine ⟨fun bytes same => (by cases same),?_⟩
    rintro e same
    cases same
    exact .inr ⟨rfl,finished.mp ended⟩

/-- A read that the end of the line does not break off returns what was received or leaves it pending. -/
theorem Entry.Known.bytes (known : x.Known) (keeps : ¬x.Drops) : x.received = x.returned ++ x.after.pending := by
  have ends := known.ends
  unfold Entry.Drops Entry.FailsClosed at keeps
  unfold Entry.returned
  generalize x.received = received, x.read = read, x.outcome = outcome, x.after.pending = pending at ends keeps ⊢
  cases ends with
  | silence fruitful => exact (List.append_nil _).symm
  | nothing empty ended => exact empty
  | found split => exact (Scripted.append_of_splitAfter? split).symm
  | late going => rfl
  | finished ended unfound => exact absurd ⟨⟨_,rfl,rfl⟩,_,_,rfl⟩ keeps

theorem Entry.Known.fruitless (known : x.Known) (informed : x.before.Informed) (closed : .closed ∈ x.before.line.answers)
    (empty : x.before.pending = []) : x.Fruitless := by
  have finished := (known.informed informed).ended.mpr (by rw [known.answers]; exact List.mem_append_left _ closed)
  have nothing : x.received = [] := by
    rw [Entry.received,(known.informed informed).no_more known.answers closed,empty]
    rfl
  have ends := known.ends
  rw [nothing] at ends
  unfold Entry.Fruitless Entry.FailsClosed
  generalize x.read = read, x.outcome = outcome, x.after.pending = pending at ends ⊢
  cases ends with
  | silence fruitful => exact absurd ⟨rfl,finished⟩ fruitful
  | nothing empty ended => exact ⟨_,rfl,rfl⟩
  | found split =>
    obtain ⟨⟨first,last⟩,found,parts⟩ := Option.map_eq_some_iff.mp split
    cases parts
    simp [found]
  | late going =>
    rw [finished] at going
    cases going
  | finished ended unfound =>
    have absent := Option.map_eq_none_iff.mp unfound
    simp only [absent]
    exact ⟨_,rfl,rfl⟩

end Kept

variable {entries : List (Entry δ)}

/-- What is known of reads one after the other, each from the line that the one before it left. -/
theorem Returned.known (returned : Returned p entries q) (informed : p.Informed) :
    (∀ x ∈ entries, x.Known ∧ x.before.Informed) ∧ q.Informed := by
  induction returned with
  | nil p => exact ⟨fun _ member => absurd member List.not_mem_nil,informed⟩
  | cons ran later ih =>
    have known := known_of_run ran
    obtain ⟨others,last⟩ := ih (known.informed informed)
    exact ⟨List.forall_mem_cons.mpr ⟨⟨known,informed⟩,others⟩,last⟩

/-- What was pending and what came was returned, in order, or is pending. -/
theorem Returned.bytes (returned : Returned p entries q) (keeps : ∀ x ∈ entries, ¬x.Drops) :
    ∃ came, q.line.answers = p.line.answers ++ came ∧
      p.pending ++ dataOf came = entries.flatMap (·.returned) ++ q.pending := by
  induction returned with
  | nil p => exact ⟨[],(List.append_nil _).symm,List.append_nil _⟩
  | @cons p q r read rounds outcome entries ran later ih =>
    obtain ⟨keep,keeps⟩ := List.forall_mem_cons.mp keeps
    obtain ⟨came,answers,bytes⟩ := ih keeps
    have known := known_of_run ran
    have first := known.bytes keep
    refine ⟨Entry.answers ⟨read,p,outcome,q⟩ ++ came,?_,?_⟩
    · rw [answers,known.answers,List.append_assoc]
    · calc p.pending ++ dataOf (Entry.answers ⟨read,p,outcome,q⟩ ++ came)
        _ = Entry.received ⟨read,p,outcome,q⟩ ++ dataOf came := by rw [dataOf_append,← List.append_assoc]; rfl
        _ = Entry.returned ⟨read,p,outcome,q⟩ ++ (q.pending ++ dataOf came) := by rw [first,List.append_assoc]
        _ = _ := by rw [bytes,List.flatMap_cons,List.append_assoc]

/-- However a line answers and its clock goes, reads of it that return lose no byte: as long as no wait for
    a match is broken off by the end of the line, what they returned, in order, and what is pending is the
    data that the line gave. Each read is exact about what was there to be read (`Entry.Exact`), the end is
    the last answer of the line, and what is read after it with nothing pending fails, but for a match of no
    bytes (`Entry.Fruitless`). -/
theorem polled_reads_keep_bytes {line : δ} {interval : Nat} {entries : List (Entry δ)} {p : Polled (Tapped δ)}
    (returned : Returned { line := { line }, interval } entries p) :
    -- The tap changes nothing of a read.
    (∀ (read : Read) (rounds : Nat) (p : Polled (Tapped δ)),
      read.run rounds p.untapped = (read.run rounds p).map (Prod.map id untapped)) ∧
    ((∀ x ∈ entries, ¬x.Drops) → entries.flatMap (·.returned) ++ p.pending = dataOf p.line.answers) ∧
    (∀ x ∈ entries, x.after.line.answers = x.before.line.answers ++ x.answers ∧ x.Exact) ∧
    (∀ earlier later, p.line.answers = earlier ++ .closed :: later → later = []) ∧
    ∀ x ∈ entries, .closed ∈ x.before.line.answers → x.before.pending = [] → x.Fruitless := by
  have fresh : Informed ({ line := { line }, interval } : Polled (Tapped δ)) := ⟨by simp,by simp⟩
  obtain ⟨known,informed⟩ := returned.known fresh
  refine ⟨run_untapped,?_,?_,?_,?_⟩
  · intro keeps
    obtain ⟨came,answers,bytes⟩ := returned.bytes keeps
    rw [← bytes,answers]
    rfl
  · intro x member
    obtain ⟨known,before⟩ := known x member
    exact ⟨known.answers,known.exact before⟩
  · exact fun earlier later => informed.at_end
  · intro x member closed empty
    obtain ⟨known,before⟩ := known x member
    exact known.fruitless before closed empty

/-! ## Lines given beforehand -/

/-- A line whose answers and clock readings are written down beforehand. -/
structure Feed where
  answers : List Chunk
  times : List Nat

instance : Line Feed where
  ask f := (f.answers.headD .idle, { f with answers := f.answers.tail })
  time f := (f.times.headD 0, { f with times := f.times.tail })
  pause _ f := f

/-- A prompt that comes in two parts, the second one after the first wait is over, and then the end. -/
def slowFeed : Feed where
  answers := [.data [0x5E,0x3E],.idle,.data [0x20,0x62],.closed]
  times := [0,3,12,12,13,14,15]

/-- The pattern of `> `. -/
def arrow : Pattern := ⟨"> ",false,.seq (.byte 0x3E) (.byte 0x20)⟩

/-- That line after some answers and clock readings. -/
def slowLine (asked timed : Nat) (pending : Bytes) (ended : Bool) : Polled (Tapped Feed) where
  line := ⟨⟨slowFeed.answers.drop asked,slowFeed.times.drop timed⟩,slowFeed.answers.take asked⟩
  pending := pending
  ended := ended
  interval := 1

/-- Two waits for the prompt, of which the first one is in vain, and what can be read after it. -/
def slowReads : List (Entry Feed) :=
  [⟨.untilMatch arrow 10,slowLine 0 0 [] false,.error (Transport.noPromptInTime arrow 10 [0x5E,0x3E]),
      slowLine 2 3 [0x5E,0x3E] false⟩,
    ⟨.untilMatch arrow 10,slowLine 2 3 [0x5E,0x3E] false,.ok [0x5E,0x3E,0x20],slowLine 3 5 [0x62] false⟩,
    ⟨.untilQuiet 5,slowLine 3 5 [0x62] false,.ok [0x62],slowLine 4 6 [] true⟩,
    ⟨.untilQuiet 5,slowLine 4 6 [] true,.error Transport.closedBeforeResponse,slowLine 4 7 [] true⟩]

theorem slowReads_returned : Returned (slowLine 0 0 [] false) slowReads (slowLine 4 7 [] true) := by
  have late : Read.run 9 (slowLine 0 0 [] false) (.untilMatch arrow 10) =
      some (.error (Transport.noPromptInTime arrow 10 [0x5E,0x3E]), slowLine 2 3 [0x5E,0x3E] false) := rfl
  have split : arrow.splitAfter? [0x5E,0x3E,0x20,0x62] = some ([0x5E,0x3E,0x20], [0x62]) := by decide +kernel
  have found : Read.run 9 (slowLine 2 3 [0x5E,0x3E] false) (.untilMatch arrow 10) =
      some (.ok [0x5E,0x3E,0x20], slowLine 3 5 [0x62] false) := receiveUntilMatch_found (slowLine 3 5 [] false) split
  have tail : Read.run 9 (slowLine 3 5 [0x62] false) (.untilQuiet 5) = some (.ok [0x62], slowLine 4 6 [] true) := rfl
  have nothing : Read.run 9 (slowLine 4 6 [] true) (.untilQuiet 5) =
      some (.error Transport.closedBeforeResponse, slowLine 4 7 [] true) := rfl
  exact .cons late (.cons found (.cons tail (.cons nothing (.nil _))))

theorem slowReads_keep_bytes : Pattern.compile false "> " = .ok arrow ∧
    Returned { line := { line := slowFeed }, interval := 1 } slowReads (slowLine 4 7 [] true) ∧
    slowReads.flatMap (·.returned) ++ (slowLine 4 7 [] true).pending = dataOf (slowLine 4 7 [] true).line.answers := by
  refine ⟨rfl,slowReads_returned,(polled_reads_keep_bytes slowReads_returned).2.1 ?_⟩
  simp [slowReads,Entry.Drops,Entry.FailsClosed,Transport.noPromptInTime,HarnessError.withDetails]

/-- The pattern of an `x` or nothing. -/
def perhaps : Pattern := ⟨"x?",false,.repeat (.byte 0x78) 0 (some 1) true⟩

/-- A line that ends at once, after `asked` answers. -/
def endedLine (asked : Nat) (ended : Bool) : Polled (Tapped Feed) where
  line := ⟨⟨[Chunk.closed].drop asked,[]⟩,[Chunk.closed].take asked⟩
  ended := ended
  interval := 1

/-- A wait for a pattern that matches no bytes succeeds on a line that has ended, with nothing pending. -/
theorem ended_lines_not_always_fail : Pattern.compile false "x?" = .ok perhaps ∧
    ¬∀ (line : Feed) (interval : Nat) (entries : List (Entry Feed)) (p : Polled (Tapped Feed)),
      Returned { line := { line }, interval } entries p →
      ∀ x ∈ entries, .closed ∈ x.before.line.answers → x.before.pending = [] → x.FailsClosed := by
  have finished : Read.run 9 (endedLine 0 false) (.untilQuiet 5) =
      some (.error Transport.closedBeforeResponse, endedLine 1 true) := rfl
  have split : perhaps.splitAfter? [] = some ([], []) := by decide +kernel
  have found : Read.run 9 (endedLine 1 true) (.untilMatch perhaps 5) = some (.ok [], endedLine 1 true) :=
    receiveUntilMatch_found (endedLine 1 true) split
  refine ⟨rfl,fun fails => ?_⟩
  have failed := fails ⟨[.closed],[]⟩ 1 _ _ (.cons finished (.cons found (.nil _))) _
    (List.mem_cons_of_mem _ List.mem_cons_self) (List.mem_singleton.mpr rfl) rfl
  obtain ⟨e,error,-⟩ := failed
  cases error

end Polled
end TabCompletion
