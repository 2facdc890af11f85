import TabCompletion.Completion
import TabCompletion.Expectation
import TabCompletion.Text.Quoted

/-!
# Matching

`evaluate` compares a completion result with an expectation. A mismatch says what was wrong in
words and carries both sides: `wrongKind` where text was inserted and a list expected or the other
way round, otherwise the two texts, token sets or lists of lines with their sizes.
-/
namespace TabCompletion

inductive MismatchDetail where
  | wrongKind (expected : String) (observed : CompletionResult)
  | immediate (observed : String) (observedLength : Nat) (expected : String) (expectedLength : Nat)
  | tokens (observedCount expectedCount : Nat) (missing unexpected observed expected : TokenSet)
  | lines (observedCount expectedCount : Nat) (observed expected : List String)
  deriving DecidableEq, Repr, Inhabited

structure Mismatch where
  message : String
  detail : MismatchDetail
  deriving DecidableEq, Repr, Inhabited

inductive MatchOutcome where
  | pass
  | fail (mismatch : Mismatch)
  deriving DecidableEq, Repr, Inhabited

namespace MatchOutcome

def passed : MatchOutcome → Bool
  | pass => true
  | fail _ => false

def mismatch? : MatchOutcome → Option Mismatch
  | pass => none
  | fail m => some m

end MatchOutcome

namespace Matching

def wrongKind (observed : CompletionResult) (expected : String) : MatchOutcome :=
  .fail ⟨s!"expected {expected}, got {observed.kind} result",.wrongKind expected observed⟩

def immediate (observed : CompletionResult) (expected : String) : MatchOutcome :=
  match observed.immediateText? with
  | none => wrongKind observed ("immediate " ++ Text.quote expected)
  | some text =>
    if text = expected then .pass
    else
      .fail ⟨"expected immediate completion " ++ Text.quote expected ++
          s!" (len {expected.utf8ByteSize}), got " ++ Text.quote text ++
          s!" (len {text.utf8ByteSize})",
        .immediate text text.utf8ByteSize expected expected.utf8ByteSize⟩

/-- A part of a message that is left out for an empty set. -/
def unlessEmpty (label : String) (set : TokenSet) : String :=
  if set.isEmpty then "" else "; " ++ label ++ " " ++ Text.quoteSet set.toList

/-- The listed tokens must be the expected ones; more of them only if others are tolerated. -/
def tokens (observed : CompletionResult) (expected : TokenSet) (othersOk : Bool) : MatchOutcome :=
  match observed.tokens? with
  | none =>
    wrongKind observed
      (if expected.isEmpty then "no choices" else "choices " ++ Text.quoteSet expected.toList)
  | some offered =>
    let missing := expected.diff offered
    let unexpected := if othersOk then TokenSet.empty else offered.diff expected
    if missing.isEmpty && unexpected.isEmpty then .pass
    else
      .fail ⟨s!"expected {expected.size} choice(s), got {offered.size}" ++
          unlessEmpty "missing" missing ++ unlessEmpty "unexpected" unexpected,
        .tokens offered.size expected.size missing unexpected offered expected⟩

/-- The listed lines must be the expected ones in order; if others are tolerated, each expected
    line must be among them. -/
def lines (observed : CompletionResult) (expected : List String) (othersOk : Bool) : MatchOutcome :=
  match observed.lines? with
  | none => wrongKind observed ("lines " ++ Text.quoteList expected)
  | some printed =>
    if (if othersOk then expected.all (printed.contains ·) else printed == expected) then .pass
    else
      .fail ⟨s!"expected {expected.length} line(s) " ++ Text.quoteList expected ++
          s!", got {printed.length} " ++ Text.quoteList printed,
        .lines printed.length expected.length printed expected⟩

end Matching

def evaluate (observed : CompletionResult) : Expectation → MatchOutcome
  | .immediate text => Matching.immediate observed text
  | .choices tokens othersOk => Matching.tokens observed tokens othersOk
  | .lines lines othersOk => Matching.lines observed lines othersOk
  | .noChoices => Matching.tokens observed TokenSet.empty false

/-! ## Outcomes as values -/

namespace MismatchDetail

def toJson : MismatchDetail → Json
  | wrongKind expected observed =>
    .obj [("kind", .str "wrong_kind"),("expected", .str expected),("observed", observed.toJson)]
  | immediate observed observedLength expected expectedLength =>
    .obj [("kind", .str "immediate"),("observed", .str observed),
      ("observed_len", .nat observedLength),("expected", .str expected),
      ("expected_len", .nat expectedLength)]
  | tokens observedCount expectedCount missing unexpected observed expected =>
    .obj [("kind", .str "tokens"),("observed_count", .nat observedCount),
      ("expected_count", .nat expectedCount),("missing", .strs missing.toList),
      ("unexpected", .strs unexpected.toList),("observed", .strs observed.toList),
      ("expected", .strs expected.toList)]
  | lines observedCount expectedCount observed expected =>
    .obj [("kind", .str "lines"),("observed_count", .nat observedCount),
      ("expected_count", .nat expectedCount),("observed", .strs observed),
      ("expected", .strs expected)]

def sizeLimit : Nat := 18446744073709551615

def wrongKindRecord : Record (Option String × Option CompletionResult) MismatchDetail where
  names := ["expected","observed"]
  closed := false
  start := (none, none)
  put
    | "expected", n, (_, observed) => return (some (← n.readString), observed)
    | _, n, (expected, _) => return (expected, some (← CompletionResult.read n))
  finish p := return .wrongKind (← required "expected" p.1) (← required "observed" p.2)

structure Texts where
  observed : Option String := none
  observedLength : Option Nat := none
  expected : Option String := none
  expectedLength : Option Nat := none

def immediateRecord : Record Texts MismatchDetail where
  names := ["observed","observed_len","expected","expected_len"]
  closed := false
  start := {}
  put
    | "observed", n, p => return { p with observed := some (← n.readString) }
    | "observed_len", n, p => return { p with observedLength := some (← n.readNat sizeLimit) }
    | "expected", n, p => return { p with expected := some (← n.readString) }
    | _, n, p => return { p with expectedLength := some (← n.readNat sizeLimit) }
  finish p := do
    return .immediate (← required "observed" p.observed)
      (← required "observed_len" p.observedLength) (← required "expected" p.expected)
      (← required "expected_len" p.expectedLength)

structure Lists where
  observedCount : Option Nat := none
  expectedCount : Option Nat := none
  missing : Option (List String) := none
  unexpected : Option (List String) := none
  observed : Option (List String) := none
  expected : Option (List String) := none

def Lists.put (name : String) (n : Node) (p : Lists) : Reading Lists :=
  match name with
  | "observed_count" => return { p with observedCount := some (← n.readNat sizeLimit) }
  | "expected_count" => return { p with expectedCount := some (← n.readNat sizeLimit) }
  | "missing" => return { p with missing := some (← n.readList Node.readString) }
  | "unexpected" => return { p with unexpected := some (← n.readList Node.readString) }
  | "observed" => return { p with observed := some (← n.readList Node.readString) }
  | _ => return { p with expected := some (← n.readList Node.readString) }

def tokensRecord : Record Lists MismatchDetail where
  names := ["observed_count","expected_count","missing","unexpected","observed","expected"]
  closed := false
  start := {}
  put := Lists.put
  finish p := do
    return .tokens (← required "observed_count" p.observedCount)
      (← required "expected_count" p.expectedCount)
      (TokenSet.ofList (← required "missing" p.missing))
      (TokenSet.ofList (← required "unexpected" p.unexpected))
      (TokenSet.ofList (← required "observed" p.observed))
      (TokenSet.ofList (← required "expected" p.expected))

def linesRecord : Record Lists MismatchDetail where
  names := ["observed_count","expected_count","observed","expected"]
  closed := false
  start := {}
  put := Lists.put
  finish p := do
    return .lines (← required "observed_count" p.observedCount)
      (← required "expected_count" p.expectedCount) (← required "observed" p.observed)
      (← required "expected" p.expected)

def read (n : Node) : Reading MismatchDetail := do
  match ← n.readUnion "kind" with
  | ("wrong_kind", fields) => wrongKindRecord.read fields
  | ("immediate", fields) => immediateRecord.read fields
  | ("tokens", fields) => tokensRecord.read fields
  | ("lines", fields) => linesRecord.read fields
  | _ => .error (.malformed "a kind of mismatch")

end MismatchDetail

namespace Mismatch

def record : Record (Option String × Option MismatchDetail) Mismatch where
  names := ["message","detail"]
  closed := false
  start := (none, none)
  put
    | "message", n, (_, detail) => return (some (← n.readString), detail)
    | _, n, (message, _) => return (message, some (← MismatchDetail.read n))
  finish p := return ⟨← required "message" p.1,← required "detail" p.2⟩

end Mismatch

namespace MatchOutcome

def toJson : MatchOutcome → Json
  | pass => .obj [("status", .str "pass")]
  | fail m =>
    .obj [("status", .str "fail"),("message", .str m.message),("detail", m.detail.toJson)]

def read (n : Node) : Reading MatchOutcome := do
  match ← n.readUnion "status" with
  | ("pass", fields) => do fields.readNothing; return .pass
  | ("fail", fields) => return .fail (← Mismatch.record.read fields)
  | _ => .error (.malformed "pass or fail")

end MatchOutcome
end TabCompletion
