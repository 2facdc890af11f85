import TabCompletion.Error
import TabCompletion.Text.Lines

/-!
# Timing settings

A line editor does not say when a completion is finished, so every read is bounded by a quiet period
or a deadline. The six settings are in milliseconds. Four of them can be overridden by environment
variables (`withOverrides`); the overridden settings must be `validate`d.
-/
namespace TabCompletion

/-- The timing of probes, recoveries, start-up and teardown, in milliseconds. -/
structure HarnessConfig where
  /-- The quiet period that ends a capture. -/
  responseBudget : Nat := 500
  /-- The deadline of the first wait for a prompt after a cancelled line. -/
  resyncTimeout : Nat := 1000
  resyncRetryTimeout : Nat := 10000
  startupTimeout : Nat := 10000
  pollInterval : Nat := 5
  /-- The time between asking a shell to stop and forcing it. -/
  teardownGrace : Nat := 500
  deriving DecidableEq, Repr, Inhabited

namespace HarnessConfig

def limit : Nat := 18446744073709551615

def fields (c : HarnessConfig) : List (String × Nat) :=
  [("response_budget_ms", c.responseBudget),("resync_timeout_ms", c.resyncTimeout),
    ("resync_retry_timeout_ms", c.resyncRetryTimeout),("startup_timeout_ms", c.startupTimeout),
    ("poll_interval_ms", c.pollInterval),("teardown_grace_ms", c.teardownGrace)]

/-- The settings that must not be zero: all but the grace period. -/
def budgets (c : HarnessConfig) : List (String × Nat) := c.fields.take 5

/-- Refuses the first budget that is zero, and a retry that is shorter than the first wait. -/
def validate (c : HarnessConfig) : HarnessResult Unit :=
  match c.budgets.find? (·.2 == 0) with
  | some (name, _) =>
    .error (.withDetails .config (name ++ " must be greater than zero") [("field", .str name)])
  | none =>
    if c.resyncRetryTimeout < c.resyncTimeout then
      .error (.withDetails .config
        "resync_retry_timeout_ms must not be shorter than resync_timeout_ms"
        [("resync_timeout_ms", .nat c.resyncTimeout),
          ("resync_retry_timeout_ms", .nat c.resyncRetryTimeout)])
    else .ok ()

/-- The value of one or more decimal digits, after a plus sign if there is one, up to `limit`. -/
def milliseconds? (cs : List Char) : Option Nat :=
  let digits := match cs with
    | '+' :: rest => rest
    | rest => rest
  if digits.isEmpty || !digits.all Char.isDigit then none
  else
    let n := digits.foldl (fun n c => n * 10 + (c.toNat - '0'.toNat)) 0
    if n ≤ limit then some n else none

/-- The variables that override a setting, in order, with the setting that each one replaces. -/
def overrides : List (String × (Nat → HarnessConfig → HarnessConfig)) :=
  [("TABPROBE_RESPONSE_BUDGET_MS", fun n c => { c with responseBudget := n }),
    ("TABPROBE_RESYNC_TIMEOUT_MS", fun n c => { c with resyncTimeout := n }),
    ("TABPROBE_RESYNC_RETRY_TIMEOUT_MS", fun n c => { c with resyncRetryTimeout := n }),
    ("TABPROBE_STARTUP_TIMEOUT_MS", fun n c => { c with startupTimeout := n })]

def override (lookup : String → Option String) (c : HarnessConfig)
    (entry : String × (Nat → HarnessConfig → HarnessConfig)) : HarnessResult HarnessConfig :=
  match lookup entry.1 with
  | none => .ok c
  | some raw =>
    match milliseconds? (Text.trimChars raw.toList) with
    | some n => .ok (entry.2 n c)
    | none =>
      .error (.withDetails .config (entry.1 ++ " must be a whole number of milliseconds")
        [("var", .str entry.1),("value", .str raw)])

def withOverrides (lookup : String → Option String) (c : HarnessConfig) :
    HarnessResult HarnessConfig := do
  let c ← overrides.foldlM (override lookup) c
  c.validate
  return c

def toJson (c : HarnessConfig) : Json := .obj (c.fields.map fun (name, n) => (name, .nat n))

/-- How settings are read: a setting that is not given has its default. -/
def record : Record HarnessConfig HarnessConfig where
  names := (HarnessConfig.fields {}).map (·.1)
  closed := true
  start := {}
  put
    | "response_budget_ms", n, c => return { c with responseBudget := ← n.readNat limit }
    | "resync_timeout_ms", n, c => return { c with resyncTimeout := ← n.readNat limit }
    | "resync_retry_timeout_ms", n, c => return { c with resyncRetryTimeout := ← n.readNat limit }
    | "startup_timeout_ms", n, c => return { c with startupTimeout := ← n.readNat limit }
    | "poll_interval_ms", n, c => return { c with pollInterval := ← n.readNat limit }
    | _, n, c => return { c with teardownGrace := ← n.readNat limit }
  finish := .ok

def read (n : Node) : Reading HarnessConfig := record.read n

end HarnessConfig
end TabCompletion
