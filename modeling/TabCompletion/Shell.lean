import TabCompletion.Document.Record
import TabCompletion.Text.Lines

/-!
# The shell under test

How a shell is launched and recognised, the environment it gets, and the commands that prepare the
data it works on. `childEnv` makes sure that candidate lists do not wrap and that the shell writes
UTF-8.
-/
namespace TabCompletion

inductive EncodingMode where
  /-- Bytes that are not UTF-8 are an error. -/
  | strict
  /-- Malformed pieces are replaced by U+FFFD. -/
  | lossy
  deriving DecidableEq, Repr, Inhabited

namespace EncodingMode

def name : EncodingMode → String
  | strict => "strict"
  | lossy => "lossy"

def read (n : Node) : Reading EncodingMode :=
  n.readChoice ([strict,lossy].map fun m => (m.name, m))

end EncodingMode

/-- Variables in ascending order; of two with one name the later counts. -/
def sortedVariables (pairs : List (String × String)) : List (String × String) :=
  putAll [] pairs

def variablesToJson (vars : List (String × String)) : Json :=
  .obj (vars.map fun (n, v) => (n, .str v))

structure SessionConfig where
  command : String
  args : List String := []
  cwd : Option String := none
  /-- Variables set last, in ascending order of their names. -/
  env : List (String × String) := []
  /-- The prompt as a pattern with a place for the name of the context. -/
  prompt : String
  context : Option String := none
  encoding : EncodingMode := .strict
  /-- The width of the terminal that the shell is told. -/
  columns : Nat := 100000
  deriving DecidableEq, Repr, Inhabited

namespace SessionConfig

def columnLimit : Nat := 4294967295

def toJson (c : SessionConfig) : Json :=
  .obj <|
    [("command", .str c.command),("args", .strs c.args)] ++
    Json.optional "cwd" (c.cwd.map .str) ++
    (if c.env.isEmpty then [] else [("env", variablesToJson c.env)]) ++
    [("prompt", .str c.prompt)] ++ Json.optional "context" (c.context.map .str) ++
    [("encoding", .str c.encoding.name),("columns", .nat c.columns)]

structure Fields where
  command : Option String := none
  args : List String := []
  cwd : Option String := none
  env : List (String × String) := []
  prompt : Option String := none
  context : Option String := none
  encoding : EncodingMode := .strict
  columns : Nat := 100000

def record : Record Fields SessionConfig where
  names := ["command","args","cwd","env","prompt","context","encoding","columns"]
  closed := false
  start := {}
  put
    | "command", n, p => return { p with command := some (← n.readString) }
    | "args", n, p => return { p with args := ← n.readList Node.readString }
    | "cwd", n, p => return { p with cwd := ← n.readOption Node.readString }
    | "env", n, p => return { p with env := sortedVariables (← n.readTable) }
    | "prompt", n, p => return { p with prompt := some (← n.readString) }
    | "context", n, p => return { p with context := ← n.readOption Node.readString }
    | "encoding", n, p => return { p with encoding := ← EncodingMode.read n }
    | _, n, p => return { p with columns := ← n.readNat columnLimit }
  finish p := do
    let command ← required "command" p.command
    let prompt ← required "prompt" p.prompt
    return ⟨command,p.args,p.cwd,p.env,prompt,p.context,p.encoding,p.columns⟩

def read (n : Node) : Reading SessionConfig := record.read n

end SessionConfig

/-- The variables that decide about the locale, the strongest first. -/
def localeVariables : List String := ["LC_ALL","LC_CTYPE","LANG"]

def lowerAscii (c : Char) : Char := if 'A' ≤ c ∧ c ≤ 'Z' then Char.ofNat (c.toNat + 32) else c

def namesUtf8 (locale : String) : Bool :=
  let lower := locale.toList.map lowerAscii
  Text.occursIn "utf-8".toList lower || Text.occursIn "utf8".toList lower

/-- Whether the first locale variable that is set and not empty names a UTF-8 encoding. -/
def localeIsUtf8 (lookup : String → Option String) : Bool :=
  match (localeVariables.filterMap lookup).find? (· != "") with
  | some locale => namesUtf8 locale
  | none => false

/-- The locale that a shell gets if the environment does not have a UTF-8 one. -/
def fallbackLocale : String := "en_US.utf8"

/-- The variables set for the shell: the width of the terminal, a UTF-8 locale if there is none,
    then its own. -/
def childEnv (config : SessionConfig) (lookup : String → Option String) : List (String × String) :=
  sortedVariables <|
    [("COLUMNS", toString config.columns)] ++
    (if localeIsUtf8 lookup then [] else [("LC_CTYPE", fallbackLocale)]) ++ config.env

structure FixtureSpec where
  setup : List String := []
  teardown : List String := []
  cwd : Option String := none
  deriving DecidableEq, Repr, Inhabited

namespace FixtureSpec

def toJson (f : FixtureSpec) : Json :=
  .obj ([("setup", .strs f.setup),("teardown", .strs f.teardown)] ++
    Json.optional "cwd" (f.cwd.map .str))

def record : Record FixtureSpec FixtureSpec where
  names := ["setup","teardown","cwd"]
  closed := false
  start := {}
  put
    | "setup", n, f => return { f with setup := ← n.readList Node.readString }
    | "teardown", n, f => return { f with teardown := ← n.readList Node.readString }
    | _, n, f => return { f with cwd := ← n.readOption Node.readString }
  finish := .ok

def read (n : Node) : Reading FixtureSpec := record.read n

end FixtureSpec
end TabCompletion
