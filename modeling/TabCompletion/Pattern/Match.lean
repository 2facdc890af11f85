import TabCompletion.Pattern.Size

/-!
# Finding patterns

`Expr.ends` gives the places where a match of an expression can end, the preferred one first: the
first of two alternatives, the most passes of a greedy repetition, the fewest of a lazy one. A
pattern is found at the leftmost place where it matches, up to the preferred end. After a pass that
matches nothing a repetition is not repeated from where it began.
-/
namespace TabCompletion.Pattern

/-- A place between bytes: how many bytes are before it, those bytes with the nearest first, and the
    bytes after it. -/
structure Cursor where
  position : Nat
  before : Bytes
  after : Bytes
  deriving DecidableEq, Repr, Inhabited

namespace Cursor

def start (bytes : Bytes) : Cursor := ⟨0,[],bytes⟩

def next? (c : Cursor) : Option (UInt8 × Cursor) :=
  match c.after with
  | [] => none
  | b :: rest => some (b, ⟨c.position + 1,b :: c.before,rest⟩)

def advance : Nat → Cursor → Cursor
  | 0, c => c
  | n + 1, c =>
    match c.next? with
    | some (_, d) => advance n d
    | none => c

/-- A byte that does not begin a character. -/
def isContinuation (b : UInt8) : Bool := 0x80 ≤ b && b < 0xC0

/-- Whether no character is cut in two at the place. -/
def isBoundary (c : Cursor) : Bool :=
  match c.after with
  | [] => true
  | b :: _ => !isContinuation b

/-- The bytes from the last byte that may begin a character, up to four. -/
def lastPiece : Nat → Bytes → Bytes → Bytes
  | 0, _, piece => piece
  | _, [], piece => piece
  | n + 1, b :: rest, piece =>
    if isContinuation b then lastPiece n rest (b :: piece) else b :: piece

/-- The character before the place, if the bytes there are one. -/
def charBefore? (c : Cursor) : Option Char :=
  (Utf8.headChar? (lastPiece 4 c.before [])).map (·.1)

def charAfter? (c : Cursor) : Option Char := (Utf8.headChar? c.after).map (·.1)

end Cursor

/-- What is beside a place: nothing, what is no character, a word character or another one. -/
inductive Neighbour where
  | edge
  | invalid
  | wordChar
  | otherChar
  deriving DecidableEq, Repr

namespace Neighbour

def ofByte? : Option UInt8 → Neighbour
  | none => edge
  | some b => if (Expr.asciiSet .word).contains b.toNat then wordChar else otherChar

def ofChar? : Option Char → Neighbour
  | none => invalid
  | some c => if Unicode.word.contains c.toNat then wordChar else otherChar

def before (unicode : Bool) (c : Cursor) : Neighbour :=
  if !unicode then ofByte? c.before.head?
  else if c.before.isEmpty then edge else ofChar? c.charBefore?

def after (unicode : Bool) (c : Cursor) : Neighbour :=
  if !unicode then ofByte? c.after.head?
  else if c.after.isEmpty then edge else ofChar? c.charAfter?

end Neighbour

/-- Whether an assertion about words holds between two neighbours. Only the assertions that say that
    there is no edge of a word need characters on both sides. -/
def wordEdgeHolds (a : Assertion) (before after : Neighbour) : Bool :=
  let left := before == .wordChar
  let right := after == .wordChar
  match a with
  | .wordBoundary => left != right
  | .notWordBoundary => before != .invalid && after != .invalid && left == right
  | .wordStart => !left && right
  | .wordEnd => left && !right
  | .wordStartHalf => before != .invalid && !left
  | .wordEndHalf => after != .invalid && !right
  | _ => false

def Look.holds (l : Look) (c : Cursor) : Bool :=
  let before := c.before.head?
  let after := c.after.head?
  match l with
  | .textStart => before.isNone
  | .textEnd => after.isNone
  | .lineStart => before.isNone || before == some 0x0A
  | .lineEnd => after.isNone || after == some 0x0A
  | .lineStartCrlf =>
    before.isNone || before == some 0x0A || (before == some 0x0D && after != some 0x0A)
  | .lineEndCrlf =>
    after.isNone || after == some 0x0D || (after == some 0x0A && before != some 0x0D)
  | .word a unicode => wordEdgeHolds a (Neighbour.before unicode c) (Neighbour.after unicode c)

/-! ## Ends of matches -/

/-- A set of numbers, as the bits of a number. -/
abbrev Marks := Nat

namespace Marks

def has (m : Marks) (n : Nat) : Bool := m.testBit n

def put (m : Marks) (n : Nat) : Marks := m ||| (1 <<< n)

end Marks

/-- The places without those at a marked position, and with one of those at the same position. -/
def distinctFrom : Marks → List Cursor → List Cursor
  | _, [] => []
  | m, c :: rest =>
    if m.has c.position then distinctFrom m rest else c :: distinctFrom (m.put c.position) rest

/-- The first of the places at each position. -/
def distinct : List Cursor → List Cursor
  | [] => []
  | [c] => [c]
  | cs => distinctFrom 0 cs

/-- What a repetition does next at a place: a further pass, of which `left` more may follow if
    there is a limit, or no further one. -/
inductive Task where
  | pass (left : Option Nat) (c : Cursor)
  | stop (c : Cursor)

def Task.after (left : Option Nat) (c : Cursor) : Task :=
  match left with
  | none => .pass none c
  | some 0 => .stop c
  | some (n + 1) => .pass (some n) c

/-- The place of a task among all: the number of passes left, then the position. -/
def markOf (stride : Nat) (left : Option Nat) (c : Cursor) : Nat :=
  (match left with | none => 0 | some n => n) * stride + c.position

/-- The ends of a repetition that has tasks to do, in order. `begun` marks the passes that were
    begun, `stopped` the positions where the repetition ended; none of them counts twice. -/
def repeatFrom (step : Cursor → List Cursor) (greedy : Bool) (stride : Nat) :
    Nat → Marks → Marks → List Task → List Cursor
  | 0, _, _, _ => []
  | _, _, _, [] => []
  | fuel + 1, begun, stopped, .stop c :: rest =>
    if stopped.has c.position then repeatFrom step greedy stride fuel begun stopped rest
    else c :: repeatFrom step greedy stride fuel begun (stopped.put c.position) rest
  | fuel + 1, begun, stopped, .pass left c :: rest =>
    let mark := markOf stride left c
    if begun.has mark then repeatFrom step greedy stride fuel begun stopped rest
    else
      let more := (step c).map (Task.after left)
      let tasks := if greedy then more ++ [.stop c] else .stop c :: more
      repeatFrom step greedy stride fuel (begun.put mark) stopped (tasks ++ rest)

/-- Enough steps for a repetition from a place with at most `levels` kinds of passes: each pass
    begins once at each position and has one task for each position and one to stop. -/
def repeatFuel (levels : Nat) (c : Cursor) : Nat :=
  let positions := c.after.length + 1
  (levels + 1) * positions * (positions + 2) + positions + 2

def repeatTasks (step : Cursor → List Cursor) (greedy : Bool) (levels : Nat) (origin : Cursor)
    (tasks : List Task) : List Cursor :=
  repeatFrom step greedy (origin.position + origin.after.length + 1) (repeatFuel levels origin) 0 0
    tasks

/-- The ends of one pass or more. A first pass that matches nothing is the only one. -/
def onceOrMore (step : Cursor → List Cursor) (greedy : Bool) (c : Cursor) : List Cursor :=
  repeatTasks step greedy 1 c <|
    (step c).map fun d => if d.position = c.position then .stop d else .pass none d

def anyNumber (step : Cursor → List Cursor) (greedy : Bool) (c : Cursor) : List Cursor :=
  let begun := onceOrMore step greedy c
  distinct (if greedy then begun ++ [c] else c :: begun)

def atMost (step : Cursor → List Cursor) (greedy : Bool) (limit : Nat) (c : Cursor) : List Cursor :=
  match limit with
  | 0 => [c]
  | n + 1 => repeatTasks step greedy (n + 1) c [.pass (some n) c]

/-- The ends of exactly `n` passes from one of the places. -/
def exactly (step : Cursor → List Cursor) : Nat → List Cursor → List Cursor
  | 0, cs => cs
  | _, [] => []
  | n + 1, cs => exactly step n (distinct (cs.flatMap step))

/-- The places from `c` on after each number of passes up to `limit`, the most passes first, where a
    pass has at most one end; `fewer` are the places after fewer passes. -/
def chain (step : Cursor → List Cursor) : Nat → Cursor → List Cursor → List Cursor
  | 0, c, fewer => c :: fewer
  | limit + 1, c, fewer =>
    match step c with
    | d :: _ => chain step limit d (c :: fewer)
    | [] => c :: fewer

/-- The ends of at most `limit` passes that have at most one end each. -/
def inTurn (step : Cursor → List Cursor) (greedy : Bool) (limit : Nat) (c : Cursor) : List Cursor :=
  let places := chain step limit c []
  if greedy then places else places.reverse

namespace Expr

/-- Whether a match is one byte or one character, so that it has at most one end. -/
def isSingle : Expr → Bool
  | .byte _ | .byteOf _ | .charOf _ => true
  | .group _ body => body.isSingle
  | _ => false

/-- The ends of the matches that begin at a place, the preferred first, each position once. -/
def ends : Expr → Cursor → List Cursor
  | .empty, c => [c]
  | .byte b, c =>
    match c.next? with
    | some (b', d) => if b' = b then [d] else []
    | none => []
  | .byteOf set, c =>
    match c.next? with
    | some (b, d) => if set.contains b.toNat then [d] else []
    | none => []
  | .charOf set, c =>
    match c.charAfter? with
    | some ch => if set.contains ch.toNat then [c.advance ch.utf8Size] else []
    | none => []
  | .look l, c => if l.holds c then [c] else []
  | .group _ body, c => body.ends c
  | .seq first second, c => distinct ((first.ends c).flatMap second.ends)
  | .alt first second, c => distinct (first.ends c ++ second.ends c)
  | .repeat body least greatest greedy, c =>
    if body.isSingle then
      let limit := match greatest with
        | some n => n - least
        | none => c.after.length
      (exactly body.ends least [c]).flatMap (inTurn body.ends greedy limit)
    else
      match greatest, least with
      | some n, m => distinct ((exactly body.ends m [c]).flatMap (atMost body.ends greedy (n - m)))
      | none, 0 => anyNumber body.ends greedy c
      | none, m + 1 => distinct ((exactly body.ends m [c]).flatMap (onceOrMore body.ends greedy))

/-- Bytes that every match has, in this order, before those that come after it. -/
def needsBefore : Expr → Bytes → Bytes
  | .byte b, after => b :: after
  | .group _ body, after => body.needsBefore after
  | .seq first second, after => first.needsBefore (second.needsBefore after)
  | .repeat body least _ _, after => if least = 0 then after else body.needsBefore after
  | _, after => after

/-- Bytes that every match has, in this order. -/
def needs (e : Expr) : Bytes := e.needsBefore []

/-- The preferred match that begins at the place or, if there is none, at the next place. In text
    no match begins inside a character. -/
def findFrom (e : Expr) (text : Bool) : Bytes → Cursor → Option (Nat × Nat)
  | after, c =>
    let found := if text && !c.isBoundary then none else (e.ends c).head?
    match found with
    | some d => some (c.position, d.position)
    | none =>
      match after with
      | [] => none
      | b :: rest => findFrom e text rest ⟨c.position + 1,b :: c.before,rest⟩

end Expr
end TabCompletion.Pattern

namespace TabCompletion

/-- A compiled pattern: its source, whether it is one for text, and what it matches. -/
structure Pattern where
  source : String
  text : Bool
  expr : Pattern.Expr
  deriving Inhabited

namespace Pattern

def compile (text : Bool) (source : String) : Except Fault Pattern := do
  let s ← parse source
  if depthLimit < s.depth then .error .tooDeep
  let e ← Expr.ofSyntax text s
  if e.isTooBig then .error .tooBig
  return ⟨source,text,e⟩

/-- Where the pattern first matches: the start and the end of the match. There is none where the
    bytes that a match needs do not occur in their order, and then none is looked for. -/
def find? (p : Pattern) (bytes : Bytes) : Option (Nat × Nat) :=
  if p.expr.needs.isSublist bytes then p.expr.findFrom p.text bytes (.start bytes) else none

def isFoundIn (p : Pattern) (bytes : Bytes) : Bool := (p.find? bytes).isSome

end Pattern
end TabCompletion
