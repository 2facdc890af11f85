import TabCompletion.Document.Record
import TabCompletion.Text.Lines
import TabCompletion.TokenSet

/-!
# Completion results

What a shell did in response to one probe: it inserted text at once, it listed candidates, or it
printed nothing. A list is made from printed lines by `ofLines`: blank lines are dropped, the rest
is trimmed, and the tokens are the words of all lines.
-/
namespace TabCompletion

def tokensOf (lines : List String) : TokenSet := TokenSet.ofList (lines.flatMap Text.words)

inductive CompletionResult where
  /-- The text that was inserted after the first TAB. -/
  | immediate (text : String)
  /-- The candidates printed after the second TAB: their words, and the lines as printed. -/
  | listed (tokens : TokenSet) (lines : List String)
  | empty
  deriving DecidableEq, Repr, Inhabited

namespace CompletionResult

def ofLines (lines : List String) : CompletionResult :=
  let kept := (lines.map Text.trim).filter (!·.isEmpty)
  if kept.isEmpty then .empty else .listed (tokensOf kept) kept

def kind : CompletionResult → String
  | immediate _ => "immediate"
  | listed _ _ => "listed"
  | empty => "empty"

def immediateText? : CompletionResult → Option String
  | immediate text => some text
  | _ => none

/-- The candidate tokens, unless text was inserted. -/
def tokens? : CompletionResult → Option TokenSet
  | listed tokens _ => some tokens
  | empty => some TokenSet.empty
  | immediate _ => none

/-- The candidate lines, unless text was inserted. -/
def lines? : CompletionResult → Option (List String)
  | listed _ lines => some lines
  | empty => some []
  | immediate _ => none

def toJson (r : CompletionResult) : Json :=
  match r with
  | immediate text => .obj [("kind", .str r.kind),("text", .str text)]
  | listed tokens lines =>
    .obj [("kind", .str r.kind),("tokens", .strs tokens.toList),("lines", .strs lines)]
  | empty => .obj [("kind", .str r.kind)]

def immediateRecord : Record (Option String) CompletionResult where
  names := ["text"]
  closed := false
  start := none
  put _ n _ := return some (← n.readString)
  finish text := return .immediate (← required "text" text)

def listedRecord : Record (Option (List String) × Option (List String)) CompletionResult where
  names := ["tokens","lines"]
  closed := false
  start := (none, none)
  put
    | "tokens", n, (_, lines) => return (some (← n.readList Node.readString), lines)
    | _, n, (tokens, _) => return (tokens, some (← n.readList Node.readString))
  finish p := do
    let tokens ← required "tokens" p.1
    return .listed (TokenSet.ofList tokens) (← required "lines" p.2)

def read (n : Node) : Reading CompletionResult := do
  match ← n.readUnion "kind" with
  | ("immediate", fields) => immediateRecord.read fields
  | ("listed", fields) => listedRecord.read fields
  | ("empty", fields) => do fields.readNothing; return .empty
  | _ => .error (.malformed "a kind of completion")

end CompletionResult
end TabCompletion
