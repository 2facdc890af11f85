import TabCompletion.Transport.Scripted

/-!
# Waits on scripted terminals

A wait takes outputs from a script until the pattern is found, or until a silence or the end of the
terminal comes first. `Awaited` says which replies it takes in each case and what it leaves pending,
and `awaitMatch_awaited` says it of every wait. A pattern that is found wherever another one is ends the
waits that the other one ends (`awaitMatch_of_wider`).
-/
namespace TabCompletion.Scripted

@[simp] theorem run_send (bytes : Bytes) (s : Scripted) :
    (Transport.send bytes : Dialogue Scripted Unit).run s = Scripted.send bytes s := rfl

@[simp] theorem run_readUntilQuiet (quiet : Nat) (s : Scripted) :
    (Transport.readUntilQuiet quiet : Dialogue Scripted Bytes).run s = s.readUntilQuiet := rfl

@[simp] theorem run_readUntilMatch (p : Pattern) (timeout : Nat) (s : Scripted) :
    (Transport.readUntilMatch p timeout : Dialogue Scripted Bytes).run s =
      s.awaitMatch p timeout s.pending s.replies := rfl

@[simp] theorem run_shutdown (grace : Nat) (s : Scripted) :
    (Transport.shutdown grace : Dialogue Scripted Unit).run s = (.ok (), { s with closed := true }) := rfl

theorem send_open {s : Scripted} (bytes : Bytes) (opened : s.closed = false) :
    Scripted.send bytes s = (.ok (), { s with sent := s.sent ++ bytes, writes := s.writes ++ [bytes] }) := by
  simp [Scripted.send,opened]

theorem send_closed {s : Scripted} (bytes : Bytes) (ended : s.closed = true) :
    Scripted.send bytes s = (.error sendError, s) := by
  simp [Scripted.send,ended]

/-- The bytes of a reply; only outputs have any. -/
def bytesOf : Reply → Bytes
  | .output bytes => bytes
  | .silence => []
  | .closed => []

/-- The bytes of replies, in order. -/
def allBytes (replies : List Reply) : Bytes := replies.flatMap bytesOf

@[simp] theorem allBytes_nil : allBytes [] = [] := rfl

@[simp] theorem allBytes_cons (r : Reply) (rest : List Reply) :
    allBytes (r :: rest) = bytesOf r ++ allBytes rest := rfl

@[simp] theorem allBytes_append (xs ys : List Reply) : allBytes (xs ++ ys) = allBytes xs ++ allBytes ys :=
  List.flatMap_append

/-! ## Waits -/

/-- A split at a match loses nothing. -/
theorem append_of_splitAfter? {p : Pattern} {bytes upTo after : Bytes}
    (split : p.splitAfter? bytes = some (upTo, after)) : upTo ++ after = bytes := by
  obtain ⟨⟨start,last⟩,-,parts⟩ := Option.map_eq_some_iff.mp split
  cases parts
  exact List.take_append_drop last bytes

/-- Neither a silence nor the end of the terminal. -/
def IsOutput (r : Reply) : Prop := ∃ bytes, r = .output bytes

/-- The pattern is not found in what was received and in the output of any of the first replies. -/
def Unmatched (p : Pattern) (received : Bytes) (replies : List Reply) : Prop :=
  ∀ earlier, earlier <+: replies → p.splitAfter? (received ++ allBytes earlier) = none

/-- The pattern is not found before the last of the replies. -/
def UnmatchedBefore (p : Pattern) (received : Bytes) (replies : List Reply) : Prop :=
  ∀ earlier, earlier <+: replies → earlier ≠ replies → p.splitAfter? (received ++ allBytes earlier) = none

variable {p : Pattern} {timeout : Nat} {s : Scripted} {received bytes : Bytes} {taken replies : List Reply}

theorem unmatched_nil : Unmatched p received [] ↔ p.splitAfter? received = none := by
  constructor
  · intro unmatched; simpa using unmatched [] (List.nil_prefix)
  · intro unfound earlier inside
    obtain rfl := List.prefix_nil.mp inside
    simpa using unfound

theorem unmatched_cons {r : Reply} : Unmatched p received (r :: taken) ↔
    p.splitAfter? received = none ∧ Unmatched p (received ++ bytesOf r) taken := by
  constructor
  · intro unmatched
    refine ⟨by simpa using unmatched [] List.nil_prefix,fun earlier inside => ?_⟩
    simpa using unmatched (r :: earlier) (List.prefix_cons_iff.mpr (.inr ⟨earlier,rfl,inside⟩))
  · rintro ⟨unfound,rest⟩ earlier inside
    rcases List.prefix_cons_iff.mp inside with rfl | ⟨more,rfl,further⟩
    · simpa using unfound
    · simpa using rest more further

/-- Nothing is found in replies just if nothing is in the first ones nor, after them, in the others. -/
theorem unmatched_append {more : List Reply} : Unmatched p received (taken ++ more) ↔
    Unmatched p received taken ∧ Unmatched p (received ++ allBytes taken) more := by
  induction taken generalizing received with
  | nil =>
    have found : Unmatched p received more → p.splitAfter? received = none := fun unmatched => by
      simpa using unmatched [] List.nil_prefix
    simpa [unmatched_nil] using found
  | cons r rest ih => simp [unmatched_cons,ih,and_assoc]

theorem UnmatchedBefore.nil : UnmatchedBefore p received [] :=
  fun _ inside other => absurd (List.prefix_nil.mp inside) other

theorem UnmatchedBefore.cons {r : Reply} (unfound : p.splitAfter? received = none)
    (rest : UnmatchedBefore p (received ++ bytesOf r) taken) : UnmatchedBefore p received (r :: taken) := by
  intro earlier inside other
  rcases List.prefix_cons_iff.mp inside with rfl | ⟨more,rfl,further⟩
  · simpa using unfound
  · simpa using rest more further (by simpa using other)

/-- Nothing is found before the last of replies if nothing is in the first ones nor, after them, before
    the last of the others. -/
theorem UnmatchedBefore.append {more : List Reply} (first : Unmatched p received taken)
    (later : UnmatchedBefore p (received ++ allBytes taken) more) :
    UnmatchedBefore p received (taken ++ more) := by
  induction taken generalizing received with
  | nil => simpa using later
  | cons r rest ih =>
    obtain ⟨unfound,others⟩ := unmatched_cons.mp first
    exact .cons unfound (ih others (by simpa using later))

/-- How a wait ends, by the replies that are there. -/
inductive Awaited (p : Pattern) (timeout : Nat) (s : Scripted) (received : Bytes) :
    List Reply → HarnessResult Bytes × Scripted → Prop where
  /-- The pattern is found in the outputs that were taken, and not before the last of them. -/
  | found (taken rest : List Reply) {upTo after : Bytes} (outputs : ∀ r ∈ taken, IsOutput r)
      (first : UnmatchedBefore p received taken)
      (split : p.splitAfter? (received ++ allBytes taken) = some (upTo, after)) :
      Awaited p timeout s received (taken ++ rest) (.ok upTo, { s with pending := after, replies := rest })
  | closed (taken rest : List Reply) (outputs : ∀ r ∈ taken, IsOutput r)
      (unmatched : Unmatched p received taken) :
      Awaited p timeout s received (taken ++ .closed :: rest)
        (.error (Transport.closedBeforePrompt (received ++ allBytes taken)),
          { s with pending := [], replies := rest, closed := true })
  | silent (taken rest : List Reply) (outputs : ∀ r ∈ taken, IsOutput r)
      (unmatched : Unmatched p received taken) :
      Awaited p timeout s received (taken ++ .silence :: rest)
        (.error (Transport.noPromptInTime p timeout (received ++ allBytes taken)),
          { s with pending := received ++ allBytes taken, replies := rest })
  | exhausted (taken : List Reply) (outputs : ∀ r ∈ taken, IsOutput r)
      (unmatched : Unmatched p received taken) :
      Awaited p timeout s received taken
        (.error (Transport.noPromptInTime p timeout (received ++ allBytes taken)),
          { s with pending := received ++ allBytes taken, replies := [] })

/-- An output without the pattern is one more that was taken. -/
theorem Awaited.cons {outcome : HarnessResult Bytes × Scripted} (unfound : p.splitAfter? received = none)
    (rest : Awaited p timeout s (received ++ bytes) replies outcome) :
    Awaited p timeout s received (.output bytes :: replies) outcome := by
  have more {taken : List Reply} (outputs : ∀ r ∈ taken, IsOutput r) :
      ∀ r ∈ Reply.output bytes :: taken, IsOutput r := List.forall_mem_cons.mpr ⟨⟨bytes,rfl⟩,outputs⟩
  have all (taken : List Reply) :
      received ++ bytes ++ allBytes taken = received ++ allBytes (.output bytes :: taken) := by
    simp [bytesOf]
  cases rest with
  | found taken rest outputs first split =>
    rw [all] at split
    exact found _ rest (more outputs) (.cons unfound first) split
  | closed taken rest outputs unmatched =>
    rw [all]; exact closed _ rest (more outputs) (unmatched_cons.mpr ⟨unfound,unmatched⟩)
  | silent taken rest outputs unmatched =>
    rw [all]; exact silent _ rest (more outputs) (unmatched_cons.mpr ⟨unfound,unmatched⟩)
  | exhausted taken outputs unmatched =>
    rw [all]; exact exhausted _ (more outputs) (unmatched_cons.mpr ⟨unfound,unmatched⟩)

/-- Every wait ends in one of these ways. -/
theorem awaitMatch_awaited (p : Pattern) (timeout : Nat) (s : Scripted) (received : Bytes)
    (replies : List Reply) :
    Awaited p timeout s received replies (s.awaitMatch p timeout received replies) := by
  induction replies generalizing received with
  | nil =>
    unfold awaitMatch
    cases split : p.splitAfter? received with
    | some parts => simpa using Awaited.found [] [] (by simp) .nil (by simpa using split)
    | none => simpa using Awaited.exhausted [] (by simp) (unmatched_nil.mpr split)
  | cons r rest ih =>
    unfold awaitMatch
    cases split : p.splitAfter? received with
    | some parts => simpa using Awaited.found [] (r :: rest) (by simp) .nil (by simpa using split)
    | none =>
      cases r with
      | output bytes => exact (ih (received ++ bytes)).cons split
      | closed => simpa using Awaited.closed [] rest (by simp) (unmatched_nil.mpr split)
      | silence => simpa using Awaited.silent [] rest (by simp) (unmatched_nil.mpr split)

theorem isSome_splitAfter? (p : Pattern) (bytes : Bytes) : (p.splitAfter? bytes).isSome = p.isFoundIn bytes :=
  Option.isSome_map

/-- A pattern that is found wherever another one is ends a wait that ends for the other one. -/
theorem awaitMatch_of_wider {p q : Pattern} (wider : ∀ bytes, p.isFoundIn bytes = true → q.isFoundIn bytes = true)
    {timeout : Nat} (timeout' : Nat) {shell left : Scripted} {received upTo : Bytes} {replies : List Reply}
    (awaited : shell.awaitMatch p timeout received replies = (.ok upTo, left)) :
    ∃ upTo' left', shell.awaitMatch q timeout' received replies = (.ok upTo', left') := by
  have missed {bytes : Bytes} (unfound : q.splitAfter? bytes = none) : p.splitAfter? bytes = none := by
    rw [← Option.not_isSome_iff_eq_none,isSome_splitAfter?] at unfound ⊢
    exact mt (wider bytes) unfound
  induction replies generalizing received with
  | nil =>
    unfold awaitMatch at awaited ⊢
    cases split : q.splitAfter? received with
    | some parts => exact ⟨_,_,rfl⟩
    | none => rw [missed split] at awaited; cases awaited
  | cons r rest ih =>
    unfold awaitMatch at awaited ⊢
    cases split : q.splitAfter? received with
    | some parts => exact ⟨_,_,rfl⟩
    | none =>
      rw [missed split] at awaited
      cases r with
      | output bytes => exact ih awaited
      | silence => cases awaited
      | closed => cases awaited

end TabCompletion.Scripted
