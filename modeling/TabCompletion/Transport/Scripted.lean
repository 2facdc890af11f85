import TabCompletion.Transport.Basic

/-!
# Scripted transports

A terminal whose replies are written down beforehand: each read takes the next replies. Bytes that a
read does not return stay pending for the next one. After the script, the terminal is silent.
-/
namespace TabCompletion

inductive Reply where
  | output (bytes : Bytes)
  /-- Nothing until the read gives up. -/
  | silence
  | closed
  deriving DecidableEq, Repr, Inhabited

/-- A terminal with a script: the replies to come, the bytes that were received and not returned,
    and what was sent. -/
structure Scripted where
  replies : List Reply
  pending : Bytes := []
  sent : Bytes := []
  writes : List Bytes := []
  closed : Bool := false
  deriving DecidableEq, Repr, Inhabited

namespace Scripted

def push (s : Scripted) (reply : Reply) : Scripted := { s with replies := s.replies ++ [reply] }

def remaining (s : Scripted) : Nat := s.replies.length

def sendError : HarnessError := .io "failed to write to pty" "scripted stream is closed"

/-- Records the bytes, unless the terminal is closed. -/
def send (bytes : Bytes) (s : Scripted) : HarnessResult Unit × Scripted :=
  if s.closed then (.error sendError, s)
  else (.ok (), { s with sent := s.sent ++ bytes, writes := s.writes ++ [bytes] })

def readUntilQuiet (s : Scripted) : HarnessResult Bytes × Scripted :=
  match s.replies with
  | .output bytes :: rest => (.ok (s.pending ++ bytes), { s with pending := [], replies := rest })
  | .silence :: rest => (.ok s.pending, { s with pending := [], replies := rest })
  | [] => (.ok s.pending, { s with pending := [] })
  | .closed :: rest =>
    (if s.pending.isEmpty then .error Transport.closedBeforeResponse else .ok s.pending,
      { s with pending := [], replies := rest, closed := true })

/-- Waits for a match in what was received and in the output of the replies, which are taken one by
    one. A silence ends the wait and keeps everything pending; the end of the terminal drops it. -/
def awaitMatch (p : Pattern) (timeout : Nat) (s : Scripted) (received : Bytes)
    (replies : List Reply) : HarnessResult Bytes × Scripted :=
  match p.splitAfter? received with
  | some (upTo, after) => (.ok upTo, { s with pending := after, replies })
  | none =>
    match replies with
    | .output bytes :: rest => awaitMatch p timeout s (received ++ bytes) rest
    | .closed :: rest =>
      (.error (Transport.closedBeforePrompt received),
        { s with pending := [], replies := rest, closed := true })
    | .silence :: rest =>
      (.error (Transport.noPromptInTime p timeout received),
        { s with pending := received, replies := rest })
    | [] =>
      (.error (Transport.noPromptInTime p timeout received),
        { s with pending := received, replies := [] })

def readUntilMatch (p : Pattern) (timeout : Nat) (s : Scripted) : HarnessResult Bytes × Scripted :=
  s.awaitMatch p timeout s.pending s.replies

instance : Transport Scripted where
  send := Scripted.send
  readUntilQuiet _ := Scripted.readUntilQuiet
  readUntilMatch := Scripted.readUntilMatch
  shutdown _ s := (.ok (), { s with closed := true })

end Scripted
end TabCompletion
