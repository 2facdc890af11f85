import TabCompletion.Process.Basic

/-!
# Processes put together

Redirected output (`redirect`), input from elsewhere (`feed`), output kept (`capture`), signals
ignored (`ignoring`), and one process that reads what another one prints (`pipe`).
-/
namespace TabCompletion

inductive Target where
  | stream (s : Stream)
  | file (place : Location)
  | nowhere
  deriving DecidableEq, Repr, Inhabited

/-- Where input comes from: some bytes, or zeros without end. -/
inductive Supply where
  | held (bytes : Bytes)
  | zeros
  deriving DecidableEq, Repr, Inhabited

def Supply.take (limit : Nat) : Supply → Bytes × Supply
  | held bytes => (bytes.take limit, held (bytes.drop limit))
  | zeros => (List.replicate limit 0, zeros)

namespace Process

variable {α β : Type}

def printTo (bytes : Bytes) (next : Unit → Process α) : Target → Process α
  | .stream s => .print s bytes next
  | .file place => .access (·.append place bytes) fun _ => next ()
  | .nowhere => next ()

def redirect (out err : Target) : Process α → Process α
  | .done a => .done a
  | .print .out b k => printTo b (fun u => (k u).redirect out err) out
  | .print .err b k => printTo b (fun u => (k u).redirect out err) err
  | .configure c k => .configure c fun m => (k m).redirect out err
  | .access c k => .access c fun x => (k x).redirect out err
  | .sleep t i k => .sleep t i fun s => (k s).redirect out err
  | .read n i k => .read n i fun r => (k r).redirect out err

/-- The process with its input taken from a supply, of which it gives what is left. -/
def feed (supply : Supply) : Process α → Process (α × Supply)
  | .done a => .done (a, supply)
  | .print s b k => .print s b fun u => (k u).feed supply
  | .configure _ k => (k none).feed supply
  | .access c k => .access c fun x => (k x).feed supply
  | .sleep t i k => .sleep t i fun s => (k s).feed supply
  | .read n _ k =>
    let (bytes, rest) := supply.take n
    (k (.ok bytes)).feed rest

structure Streams where
  input : Option Supply := none
  out : Target := .stream .out
  err : Target := .stream .err
  deriving DecidableEq, Repr, Inhabited

def through (streams : Streams) (p : Process α) : Process (α × Option Supply) :=
  match streams.input with
  | none => ((p.redirect streams.out streams.err).bind fun a => .done (a, none))
  | some supply =>
    ((p.feed supply).redirect streams.out streams.err).bind fun (a, rest) => .done (a, some rest)

/-- The process with its output kept, after the bytes that were kept before. -/
def capture (kept : Bytes) : Process α → Process (α × Bytes)
  | .done a => .done (a, kept)
  | .print .out b k => (k ()).capture (kept ++ b)
  | .print .err b k => .print .err b fun u => (k u).capture kept
  | .configure c k => .configure c fun m => (k m).capture kept
  | .access c k => .access c fun x => (k x).capture kept
  | .sleep t i k => .sleep t i fun s => (k s).capture kept
  | .read n i k => .read n i fun r => (k r).capture kept

def ignoring (signals : List Signal) : Process α → Process α
  | .done a => .done a
  | .print s b k => .print s b fun u => (k u).ignoring signals
  | .configure c k => .configure c fun m => (k m).ignoring signals
  | .access c k => .access c fun x => (k x).ignoring signals
  | .sleep t i k => .sleep t (signals ++ i) fun s => (k s).ignoring signals
  | .read n i k => .read n (signals ++ i) fun r => (k r).ignoring signals

/-- Runs a process until it prints, and hands the bytes and the process after them on. At its end, or
    when a signal comes, it hands on no bytes or the signal. -/
def awaitOutput (found : Except Signal Bytes → (Unit → Process α) → Process β) :
    Process α → Process β
  | .done a => found (.ok []) fun _ => .done a
  | .print .out [] k => (k ()).awaitOutput found
  | .print .out b k => found (.ok b) k
  | .print .err b k => .print .err b fun u => (k u).awaitOutput found
  | .configure c k => .configure c fun m => (k m).awaitOutput found
  | .access c k => .access c fun x => (k x).awaitOutput found
  | .sleep t i k => .sleep t i fun
    | none => (k none).awaitOutput found
    | some s => found (.error s) fun _ => k (some s)
  | .read n i k => .read n i fun
    | .ok bytes => (k (.ok bytes)).awaitOutput found
    | .error s => found (.error s) fun _ => k (.error s)

/-- The process until it would print again, which ends it. -/
def finish : Process α → Process Unit
  | .done _ => .done ()
  | .print .out _ _ => .done ()
  | .print .err b k => .print .err b fun u => (k u).finish
  | .configure c k => .configure c fun m => (k m).finish
  | .access c k => .access c fun x => (k x).finish
  | .sleep t i k => .sleep t i fun s => (k s).finish
  | .read n i k => .read n i fun r => (k r).finish

/-- Runs a process until it waits for something, and gives the rest of it. -/
def untilBlocked : Process α → Process (Process α)
  | .done a => .done (.done a)
  | .print s b k => .print s b fun u => (k u).untilBlocked
  | .configure c k => .configure c fun m => (k m).untilBlocked
  | .access c k => .access c fun x => (k x).untilBlocked
  | .sleep t i k => .done (.sleep t i k)
  | .read n i k => .done (.read n i k)

/-- Two processes at once: the second reads what the first prints. `waiting` was printed and not
    read. The whole ends when both have ended. -/
def pipe (waiting : Bytes) (writer : Unit → Process α) : Process β → Process β
  | .done b => (writer ()).finish.bind fun _ => .done b
  | .print s b k => .print s b fun u => (k u).pipe waiting writer
  | .configure _ k => (k none).pipe waiting writer
  | .access c k => .access c fun x => (k x).pipe waiting writer
  | .sleep t i k => .sleep t i fun s => (k s).pipe waiting writer
  | .read n _ k =>
    if waiting.isEmpty then
      (writer ()).awaitOutput fun
        | .ok bytes, writer => (k (.ok (bytes.take n))).pipe (bytes.drop n) writer
        | .error s, writer => (k (.error s)).pipe [] writer
    else (k (.ok (waiting.take n))).pipe (waiting.drop n) writer

end Process
end TabCompletion
