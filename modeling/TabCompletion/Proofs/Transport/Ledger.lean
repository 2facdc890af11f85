import TabCompletion.Proofs.Transport.Awaiting

/-!
# The ledger of a scripted terminal

A scripted terminal is used in steps: bytes are sent, replies are added, output is read, the shell is
stopped. `Entry` is a step with what came of it, and `history` the entries of steps in order.
`scripted_ledger` balances them: every byte of the replies that were taken was read once, or dropped at
the end of the terminal, or is still pending, and the terminal keeps what was sent to it.
-/
namespace TabCompletion.Scripted

/-- Something done with a scripted terminal. -/
inductive Operation where
  | send (bytes : Bytes)
  | push (reply : Reply)
  | readUntilQuiet (quiet : Nat)
  | readUntilMatch (p : Pattern) (timeout : Nat)
  | shutdown (grace : Nat)

/-- What an operation does. An operation that reads nothing has no bytes. -/
def Operation.run (s : Scripted) : Operation → HarnessResult Bytes × Scripted
  | send bytes => (((Transport.send bytes).run s).1.map fun _ => [], ((Transport.send bytes).run s).2)
  | push reply => (.ok [], s.push reply)
  | readUntilQuiet quiet => (Transport.readUntilQuiet quiet).run s
  | readUntilMatch p timeout => (Transport.readUntilMatch p timeout).run s
  | shutdown grace =>
    (((Transport.shutdown grace).run s).1.map fun _ => [], ((Transport.shutdown grace).run s).2)

/-- An operation that was performed: the terminal before it, what was read or went wrong, and the
    terminal after it. -/
structure Entry where
  operation : Operation
  before : Scripted
  outcome : HarnessResult Bytes
  after : Scripted

/-- The entry of an operation on a terminal. -/
def Operation.perform (s : Scripted) (operation : Operation) : Entry :=
  ⟨operation,s,(operation.run s).1,(operation.run s).2⟩

/-- The entries of operations one after the other. -/
def history (s : Scripted) : List Operation → List Entry
  | [] => []
  | operation :: rest => operation.perform s :: history (operation.perform s).after rest

/-- The terminal after operations. -/
def performAll (s : Scripted) : List Operation → Scripted
  | [] => s
  | operation :: rest => performAll (operation.perform s).after rest

namespace Entry

/-- The replies that were added to the script. -/
def pushed (x : Entry) : List Reply :=
  match x.operation with
  | .push reply => [reply]
  | _ => []

/-- The replies that were taken from the script. -/
def taken (x : Entry) : List Reply := x.before.replies.take (x.before.replies.length - x.after.replies.length)

/-- The bytes that had been received: those that were pending, and those of the replies taken. -/
def received (x : Entry) : Bytes := x.before.pending ++ allBytes x.taken

/-- The received bytes that are gone: what a read returned, or all of them if the terminal ended
    where a match was awaited. -/
def gone (x : Entry) : Bytes :=
  match x.operation, x.outcome with
  | .readUntilQuiet _, .ok bytes => bytes
  | .readUntilMatch _ _, .ok bytes => bytes
  | .readUntilMatch _ _, .error e => if e.code = .streamClosed then x.received else []
  | _, _ => []

/-- The bytes that were sent, if they could be. -/
def sent (x : Entry) : List Bytes :=
  match x.operation, x.outcome with
  | .send bytes, .ok _ => [bytes]
  | _, _ => []

/-- The script, the received bytes and the writes are those from before and what was added, less what is
    gone; what ended is not open again. -/
structure Balanced (x : Entry) : Prop where
  replies : x.before.replies ++ x.pushed = x.taken ++ x.after.replies
  bytes : x.received = x.gone ++ x.after.pending
  sent : x.after.sent = x.before.sent ++ x.sent.flatten
  writes : x.after.writes = x.before.writes ++ x.sent
  closed : x.before.closed = true → x.after.closed = true

/-- A read that fails drops nothing, unless the terminal ended where a match was awaited. A `send` to
    a terminal that ended fails and does nothing. -/
def Harmless (x : Entry) : Prop :=
  match x.operation, x.outcome with
  | .readUntilQuiet _, .error _ => x.after.pending = x.received
  | .readUntilMatch _ _, .error e =>
    e.code = .streamClosed ∨ e.code = .timeout ∧ x.after.pending = x.received
  | .send _, outcome =>
    x.before.closed = true → (∃ e, outcome = .error e ∧ e.code = .io) ∧ x.after = x.before
  | _, _ => True

/-- What an entry took, if nothing was added to the script. -/
theorem taken_eq {x : Entry} {taken : List Reply} (script : x.before.replies = taken ++ x.after.replies) :
    x.taken = taken := by
  simp [Entry.taken,script]

theorem received_eq {x : Entry} (taken : List Reply)
    (script : x.before.replies = taken ++ x.after.replies) :
    x.received = x.before.pending ++ allBytes taken := by
  rw [received,taken_eq script]

/-- A step that sends and adds nothing is balanced if its reads are. -/
theorem balanced_of_read {x : Entry} (taken : List Reply)
    (script : x.before.replies = taken ++ x.after.replies) (unpushed : x.pushed = [])
    (bytes : x.before.pending ++ allBytes taken = x.gone ++ x.after.pending) (unsent : x.sent = [])
    (sent : x.after.sent = x.before.sent) (writes : x.after.writes = x.before.writes)
    (closed : x.before.closed = true → x.after.closed = true) : x.Balanced where
  replies := by rw [unpushed,taken_eq script,List.append_nil,script]
  bytes := by rw [received_eq taken script,bytes]
  sent := by simp [sent,unsent]
  writes := by simp [writes,unsent]
  closed := closed

end Entry

/-! ## One step -/

open Operation (perform)

variable {s : Scripted}

theorem perform_send (bytes : Bytes) :
    (perform s (.send bytes)).Balanced ∧ (perform s (.send bytes)).Harmless := by
  cases ended : s.closed with
  | true =>
    have entry : perform s (.send bytes) = ⟨.send bytes,s,.error sendError,s⟩ := by
      simp [perform,Operation.run,send_closed bytes ended,Except.map]
    rw [entry]
    exact ⟨Entry.balanced_of_read [] rfl rfl (by simp [Entry.gone]) rfl rfl rfl id,
      fun _ => ⟨⟨sendError,rfl,rfl⟩,rfl⟩⟩
  | false =>
    have entry : perform s (.send bytes) = ⟨.send bytes,s,.ok [],
        { s with sent := s.sent ++ bytes, writes := s.writes ++ [bytes] }⟩ := by
      simp [perform,Operation.run,send_open bytes ended,Except.map]
    rw [entry]
    refine ⟨?_,fun closed => by rw [ended] at closed; cases closed⟩
    constructor <;> simp [Entry.received,Entry.taken,Entry.pushed,Entry.gone,Entry.sent]

theorem perform_push (reply : Reply) :
    (perform s (.push reply)).Balanced ∧ (perform s (.push reply)).Harmless := by
  refine ⟨?_,trivial⟩
  constructor <;> simp [perform,Operation.run,Scripted.push,Entry.received,Entry.taken,Entry.pushed,
    Entry.gone,Entry.sent]

theorem perform_shutdown (grace : Nat) :
    (perform s (.shutdown grace)).Balanced ∧ (perform s (.shutdown grace)).Harmless := by
  refine ⟨?_,trivial⟩
  constructor <;> simp [perform,Operation.run,Entry.received,Entry.taken,Entry.pushed,Entry.gone,Entry.sent]

theorem perform_readUntilQuiet (quiet : Nat) :
    (perform s (.readUntilQuiet quiet)).Balanced ∧ (perform s (.readUntilQuiet quiet)).Harmless := by
  have entry : perform s (.readUntilQuiet quiet) =
    ⟨.readUntilQuiet quiet,s,s.readUntilQuiet.1,s.readUntilQuiet.2⟩ := rfl
  rw [entry,Scripted.readUntilQuiet]
  cases script : s.replies with
  | nil => exact ⟨Entry.balanced_of_read [] script rfl (by simp [Entry.gone]) rfl rfl rfl id,trivial⟩
  | cons r rest =>
    cases r with
    | output bytes =>
      exact ⟨Entry.balanced_of_read [.output bytes] script rfl (by simp [Entry.gone,bytesOf]) rfl rfl rfl id,
        trivial⟩
    | silence =>
      exact ⟨Entry.balanced_of_read [.silence] script rfl (by simp [Entry.gone,bytesOf]) rfl rfl rfl id,
        trivial⟩
    | closed =>
      -- The end of the terminal fails only the read that has no byte to return.
      cases pending : s.pending with
      | nil =>
        refine ⟨Entry.balanced_of_read [.closed] script rfl (by simp [Entry.gone,bytesOf,pending]) rfl rfl rfl
          (fun _ => rfl),?_⟩
        show ([] : Bytes) = Entry.received _
        rw [Entry.received_eq [.closed] script]
        simp [bytesOf,pending]
      | cons b more =>
        exact ⟨Entry.balanced_of_read [.closed] script rfl (by simp [Entry.gone,bytesOf,pending]) rfl rfl rfl
          (fun _ => rfl),trivial⟩

theorem perform_readUntilMatch (p : Pattern) (timeout : Nat) :
    (perform s (.readUntilMatch p timeout)).Balanced ∧ (perform s (.readUntilMatch p timeout)).Harmless := by
  have entry : perform s (.readUntilMatch p timeout) = ⟨.readUntilMatch p timeout,s,
    (s.awaitMatch p timeout s.pending s.replies).1,(s.awaitMatch p timeout s.pending s.replies).2⟩ := rfl
  rw [entry]
  have awaited := awaitMatch_awaited p timeout s s.pending s.replies
  revert awaited
  generalize replies : s.replies = script
  generalize s.awaitMatch p timeout s.pending script = outcome
  intro awaited
  cases awaited with
  | found taken rest outputs first split =>
    refine ⟨Entry.balanced_of_read taken replies rfl ?_ rfl rfl rfl id,trivial⟩
    exact (append_of_splitAfter? split).symm
  | closed taken rest outputs unmatched =>
    have script : s.replies = (taken ++ [.closed]) ++ rest := by rw [replies]; simp
    refine ⟨Entry.balanced_of_read _ script rfl ?_ rfl rfl rfl fun _ => rfl,.inl rfl⟩
    show _ = (if ErrorCode.streamClosed = .streamClosed then Entry.received _ else []) ++ []
    rw [if_pos rfl,List.append_nil]
    exact Eq.symm (Entry.received_eq _ script)
  | silent taken rest outputs unmatched =>
    have script : s.replies = (taken ++ [.silence]) ++ rest := by rw [replies]; simp
    have all : s.pending ++ allBytes taken = s.pending ++ allBytes (taken ++ [.silence]) := by simp [bytesOf]
    refine ⟨Entry.balanced_of_read _ script rfl ?_ rfl rfl rfl id,.inr ⟨rfl,?_⟩⟩
    · exact all.symm
    · exact all.trans (Eq.symm (Entry.received_eq _ script))
  | exhausted taken outputs unmatched =>
    have script : s.replies = script ++ [] := by rw [replies]; simp
    refine ⟨Entry.balanced_of_read _ script rfl rfl rfl rfl rfl id,.inr ⟨rfl,?_⟩⟩
    exact Eq.symm (Entry.received_eq _ script)

/-- Every operation is balanced, and its failures are harmless. -/
theorem perform_balanced (s : Scripted) (operation : Operation) :
    (perform s operation).Balanced ∧ (perform s operation).Harmless := by
  cases operation with
  | send bytes => exact perform_send bytes
  | push reply => exact perform_push reply
  | readUntilQuiet quiet => exact perform_readUntilQuiet quiet
  | readUntilMatch p timeout => exact perform_readUntilMatch p timeout
  | shutdown grace => exact perform_shutdown grace

/-- What entries say of a terminal before and after them. -/
structure Ledger (before : Scripted) (entries : List Entry) (after : Scripted) : Prop where
  /-- The replies are taken in their order, and none is left out. -/
  replies : before.replies ++ entries.flatMap (·.pushed) = entries.flatMap (·.taken) ++ after.replies
  /-- Each byte that was received is gone in one entry or still pending, in order. -/
  bytes : before.pending ++ allBytes (entries.flatMap (·.taken)) = entries.flatMap (·.gone) ++ after.pending
  sent : after.sent = before.sent ++ (entries.flatMap (·.sent)).flatten
  writes : after.writes = before.writes ++ entries.flatMap (·.sent)
  harmless : ∀ x ∈ entries, x.Harmless
  /-- What ended is not open again. -/
  closed : ∀ x ∈ entries, x.before.closed = true ∨ x.after.closed = true → after.closed = true
  stays : before.closed = true → after.closed = true

theorem Ledger.nil (s : Scripted) : Ledger s [] s := by
  constructor <;> simp

/-- A balanced entry comes before those of a ledger from the terminal that it leaves. -/
theorem Ledger.cons {x : Entry} {entries : List Entry} {after : Scripted} (balanced : x.Balanced)
    (harmless : x.Harmless) (later : Ledger x.after entries after) :
    Ledger x.before (x :: entries) after where
  replies := by
    rw [List.flatMap_cons,List.flatMap_cons,← List.append_assoc,balanced.replies,List.append_assoc,
      later.replies,List.append_assoc]
  bytes := by
    have received : x.before.pending ++ allBytes x.taken = x.gone ++ x.after.pending := balanced.bytes
    rw [List.flatMap_cons,List.flatMap_cons,allBytes_append,← List.append_assoc,received,List.append_assoc,
      later.bytes,List.append_assoc]
  sent := by rw [later.sent,balanced.sent]; simp
  writes := by rw [later.writes,balanced.writes]; simp
  harmless := List.forall_mem_cons.mpr ⟨harmless,later.harmless⟩
  closed := List.forall_mem_cons.mpr
    ⟨fun ended => later.stays (ended.elim balanced.closed id),later.closed⟩
  stays := fun ended => later.stays (balanced.closed ended)

theorem history_ledger (s : Scripted) (operations : List Operation) :
    Ledger s (history s operations) (performAll s operations) := by
  induction operations generalizing s with
  | nil => exact .nil s
  | cons operation rest ih =>
    obtain ⟨balanced,harmless⟩ := perform_balanced s operation
    exact Ledger.cons balanced harmless (ih _)

/-- However a scripted terminal is used, it loses, repeats and reorders nothing: the replies are taken
    in their order, their bytes are read in theirs, and what was sent is kept. Only the end of the
    terminal in a wait for a match drops bytes. -/
theorem scripted_ledger (script : List Reply) (operations : List Operation) :
    let entries := history { replies := script } operations
    let s := performAll { replies := script } operations
    script ++ entries.flatMap (·.pushed) = entries.flatMap (·.taken) ++ s.replies ∧
      allBytes (entries.flatMap (·.taken)) = entries.flatMap (·.gone) ++ s.pending ∧
      s.sent = s.writes.flatten ∧ s.writes = entries.flatMap (·.sent) ∧
      (∀ x ∈ entries, x.Harmless) ∧
      ∀ x ∈ entries, x.before.closed = true ∨ x.after.closed = true → s.closed = true := by
  intro entries s
  have ledger : Ledger { replies := script } entries s := history_ledger _ operations
  have writes : s.writes = entries.flatMap (·.sent) := ledger.writes
  refine ⟨ledger.replies,ledger.bytes,?_,writes,ledger.harmless,ledger.closed⟩
  rw [writes]
  exact ledger.sent

end TabCompletion.Scripted
