import TabCompletion.Transport.Basic

/-!
# Polled lines

A line that is read by asking again and again: it has data, it has none at the moment, or it has
ended. `Polled` adds what a reader needs: the bytes that were received and not returned, and that the
line has ended, after which it is not asked any more. Both reads stop after so many questions, with no
answer, because a line can have data for ever.
-/
namespace TabCompletion

inductive Chunk where
  | data (bytes : Bytes)
  | idle
  | closed
  deriving DecidableEq, Repr, Inhabited

/-- A line in a state of type `δ`, with a clock in milliseconds. -/
class Line (δ : Type) where
  ask : δ → Chunk × δ
  time : δ → Nat × δ
  pause : Nat → δ → δ

/-- A line with its reader: what was received and not returned, whether the line has ended, and the
    time between two questions. -/
structure Polled (δ : Type) where
  line : δ
  pending : Bytes := []
  ended : Bool := false
  interval : Nat
  deriving Repr, Inhabited

namespace Polled

variable {δ : Type} [Line δ]

def ask (p : Polled δ) : Chunk × Polled δ :=
  if p.ended then (.closed, p)
  else
    let (chunk, line) := Line.ask p.line
    (chunk, { p with line, ended := chunk == .closed })

def time (p : Polled δ) : Nat × Polled δ :=
  let (now, line) := Line.time p.line
  (now, { p with line })

def pause (p : Polled δ) : Polled δ := { p with line := Line.pause p.interval p.line }

/-- The bytes received until nothing came for some time since `last`, or until the line ended. -/
def receiveUntilQuiet (quiet : Nat) :
    Nat → (received : Bytes) → (last : Nat) → Polled δ → Option (Bytes × Polled δ)
  | 0, _, _, _ => none
  | rounds + 1, received, last, p =>
    match p.ask with
    | (.data bytes, p) =>
      let (now, p) := p.time
      receiveUntilQuiet quiet rounds (received ++ bytes) now p
    | (.closed, p) => some (received, p)
    | (.idle, p) =>
      let (now, p) := p.time
      if quiet ≤ now - last then some (received, p)
      else receiveUntilQuiet quiet rounds received last p.pause

def readUntilQuiet (rounds quiet : Nat) (p : Polled δ) : Option (HarnessResult Bytes × Polled δ) :=
  let (started, p) := p.time
  (receiveUntilQuiet quiet rounds p.pending started { p with pending := [] }).map
    fun (received, p) =>
      (if received.isEmpty && p.ended then .error Transport.closedBeforeResponse else .ok received, p)

/-- Waits for a match in what was received and what comes, until the deadline. After the deadline all
    of it stays for later; the end of the line drops it. -/
def receiveUntilMatch (pattern : Pattern) (timeout deadline : Nat) :
    Nat → (received : Bytes) → Polled δ → Option (HarnessResult Bytes × Polled δ)
  | 0, _, _ => none
  | rounds + 1, received, p =>
    match pattern.splitAfter? received with
    | some (upTo, after) => some (.ok upTo, { p with pending := after })
    | none =>
      let (chunk, p) := p.ask
      let received := match chunk with
        | .data bytes => received ++ bytes
        | _ => received
      if chunk = .closed then some (.error (Transport.closedBeforePrompt received), p)
      else
        let (now, p) := p.time
        if deadline ≤ now then
          some (.error (Transport.noPromptInTime pattern timeout received),
            { p with pending := received })
        else
          receiveUntilMatch pattern timeout deadline rounds received
            (if chunk = .idle then p.pause else p)

/-- Waits for a match for some time, in the bytes that are pending first. -/
def readUntilMatch (rounds : Nat) (pattern : Pattern) (timeout : Nat) (p : Polled δ) :
    Option (HarnessResult Bytes × Polled δ) :=
  let (started, p) := p.time
  receiveUntilMatch pattern timeout (started + timeout) rounds p.pending { p with pending := [] }

end Polled
end TabCompletion
