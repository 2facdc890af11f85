import TabCompletion.Document.Record
import TabCompletion.Text.Utf8

/-!
# Errors

Everything that can go wrong has a code. The code decides whether a session can still be trusted
(`ErrorCode.isFatal`), the exit code of a program that ends with the error, and the advice given.
An error has a message besides and, mostly, a context: an object with the details.
-/
namespace TabCompletion

inductive ErrorCode where
  /-- The echo of the input or the redrawn prompt is missing. -/
  | protocolViolation
  | timeout
  | streamClosed
  | io
  /-- Captured output was not valid UTF-8 although it had to be. -/
  | terminalParse
  | config
  /-- A completion was classified but is not the expected one. -/
  | matchFailed
  | cliInvalidArg
  | internal
  deriving DecidableEq, Repr, Inhabited

namespace ErrorCode

def name : ErrorCode → String
  | protocolViolation => "E_PROTOCOL_VIOLATION"
  | timeout => "E_TIMEOUT"
  | streamClosed => "E_STREAM_CLOSED"
  | io => "E_IO"
  | terminalParse => "E_TERMINAL_PARSE"
  | config => "E_CONFIG"
  | matchFailed => "E_MATCH_FAILED"
  | cliInvalidArg => "E_CLI_INVALID_ARG"
  | internal => "E_INTERNAL"

def all : List ErrorCode :=
  [protocolViolation,timeout,streamClosed,io,terminalParse,config,matchFailed,cliInvalidArg,
    internal]

/-- Whether the session must be given up after the error. -/
def isFatal : ErrorCode → Bool
  | matchFailed => false
  | config => false
  | cliInvalidArg => false
  | _ => true

def exitCode : ErrorCode → Nat
  | matchFailed => 1
  | protocolViolation => 2
  | timeout => 2
  | streamClosed => 2
  | cliInvalidArg => 3
  | config => 3
  | io => 4
  | terminalParse => 4
  | internal => 5

def help : ErrorCode → Option String
  | protocolViolation => some ("the terminal output did not follow the echo/prompt conventions; " ++
      "the session is no longer trusted")
  | timeout => some "raise response_budget_ms or the resync timeouts for slow environments"
  | streamClosed => some "the shell under test exited or closed its terminal"
  | _ => none

def read (n : Node) : Reading ErrorCode := n.readChoice (all.map fun c => (c.name, c))

end ErrorCode

structure HarnessError where
  code : ErrorCode
  message : String
  context : Option Json
  deriving Inhabited

namespace HarnessError

def withDetails (code : ErrorCode) (message : String) (details : List (String × Json)) :
    HarnessError :=
  ⟨code,message,some (Json.table details)⟩

def plain (code : ErrorCode) (message : String) : HarnessError := ⟨code,message,none⟩

def io (message source : String) : HarnessError := withDetails .io message [("source", .str source)]

def terminalParse (message : String) (source : String) (validUpTo : Nat) : HarnessError :=
  withDetails .terminalParse message [("source", .str source),("valid_up_to", .nat validUpTo)]

def isTimeout (e : HarnessError) : Bool := e.code == .timeout

def display (e : HarnessError) : String := e.code.name ++ ": " ++ e.message

def toJson (e : HarnessError) : Json :=
  .obj ([("code", .str e.code.name),("message", .str e.message)] ++ Json.optional "context" e.context)

end HarnessError

namespace Node

mutual

/-- The free-form value of a document: objects get ascending keys. Cut or untyped documents have no
    value. -/
def toJson? : Node → Option Json
  | .null => some .null
  | .bool b => some (.bool b)
  | .int n => some (.int n)
  | .float x => some (.float x)
  | .str s => some (.str s)
  | .list _ items true => (toItems? items).map .arr
  | .map entries true => (toFields? entries).map Json.table
  | _ => none

def toItems? : List Node → Option (List Json)
  | [] => some []
  | item :: rest =>
    match toJson? item, toItems? rest with
    | some j, some js => some (j :: js)
    | _, _ => none

def toFields? : List (Node × Node) → Option (List (String × Json))
  | [] => some []
  | (.str key, value) :: rest =>
    match toJson? value, toFields? rest with
    | some j, some fields => some ((key, j) :: fields)
    | _, _ => none
  | _ => none

end

def readJson (n : Node) : Reading Json :=
  match n.toJson? with
  | some j => .ok j
  | none => .error (.malformed "a value")

end Node

structure HarnessError.Fields where
  code : Option ErrorCode := none
  message : Option String := none
  context : Option Json := none

def HarnessError.record : Record HarnessError.Fields HarnessError where
  names := ["code","message","context"]
  closed := false
  start := {}
  put
    | "code", n, p => return { p with code := some (← ErrorCode.read n) }
    | "message", n, p => return { p with message := some (← n.readString) }
    | _, n, p => return { p with context := ← n.readOption Node.readJson }
  finish p := return ⟨← required "code" p.code,← required "message" p.message,p.context⟩

def HarnessError.read (n : Node) : Reading HarnessError := HarnessError.record.read n

abbrev HarnessResult := Except HarnessError

end TabCompletion
