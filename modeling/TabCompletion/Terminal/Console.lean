import TabCompletion.Terminal.Basic

/-!
# Consoles

A console is a process at a terminal, seen from the other side: keys are typed, output is fetched,
signals are sent, and time passes. The process runs until it waits for something; only its sleeps
take time.
-/
namespace TabCompletion

structure Console where
  process : Process Ending
  /-- When the process wakes up, if it sleeps for some time. -/
  wakeAt : Option Nat := none
  terminal : Terminal
  files : Files
  now : Nat

namespace Console

/-- Runs a process on the console until it ends, or waits for input that is not there or for a time
    after `limit`. -/
def resume (limit : Nat) : Process Ending → Console → Console
  | .done e, c => { c with process := .done e, wakeAt := none }
  | .print _ bytes k, c => resume limit (k ()) { c with terminal := c.terminal.print bytes }
  | .configure change k, c =>
    resume limit (k (some c.terminal.mode))
      { c with terminal := c.terminal.setMode (change c.terminal.mode) }
  | .access change k, c => resume limit (k c.files) { c with files := change c.files }
  | .sleep none i k, c => { c with process := .sleep none i k, wakeAt := none }
  | .sleep (some t) i k, c =>
    if c.now + t ≤ limit then resume limit (k none) { c with now := c.now + t }
    else { c with process := .sleep (some t) i k, wakeAt := some (c.now + t) }
  | .read n i k, c =>
    match c.terminal.take? n with
    | some (bytes, terminal) => resume limit (k (.ok bytes)) { c with terminal }
    | none => { c with process := .read n i k, wakeAt := none }

/-- Goes on with the process as far as it can without time passing. -/
def settle (c : Console) : Console :=
  match c.process with
  | .sleep _ _ _ => c
  | p => resume c.now p c

def start (process : Process Ending) (mode : TerminalMode) (files : Files) (now : Nat) : Console :=
  resume now process { process, terminal := { mode }, files, now }

def ending? (c : Console) : Option Ending :=
  match c.process with
  | .done e => some e
  | _ => none

def advance (c : Console) (time : Nat) : Console :=
  let limit := c.now + time
  let later := match c.process, c.wakeAt with
    | .sleep _ _ k, some wake =>
      if wake ≤ limit then resume limit (k none) { c with now := wake } else c
    | _, _ => c
  { later with now := limit }

def signal (s : Signal) (c : Console) : Console :=
  match c.process with
  | .done _ => c
  | p =>
    if s = .kill then { c with process := .done (.killed .kill false), wakeAt := none }
    else
      match p with
      | .sleep _ ignored k => if ignored.contains s then c else resume c.now (k (some s)) c
      | .read _ ignored k => if ignored.contains s then c else resume c.now (k (.error s)) c
      | _ => c

/-- Types keys that come together. The process gets their signals, each once, and then reads. -/
def typeKeys (c : Console) (keys : Bytes) : Console :=
  let (terminal, signals) := c.terminal.typeKeys keys
  (signals.eraseDups.foldl (fun c s => signal s c) { c with terminal }).settle

end Console
end TabCompletion
