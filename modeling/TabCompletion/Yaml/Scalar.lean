import TabCompletion.Document.Node
import TabCompletion.Yaml.Place

/-!
# Scalars in YAML text

A scalar is written plain, in single or double quotes, or as a block. Within the first three a line
break is folded to a space and several to one less; `Gap` is the white space between two words of
such a scalar. In a literal block line breaks are kept, in a folded block they are folded between
lines that do not begin with white space.
-/
namespace TabCompletion.Yaml

def before (indent : Option Nat) (column : Nat) : Bool :=
  indent.any (column < ·)

/-- White space inside a scalar: the spaces, or the breaks if there is one. -/
structure Gap where
  /-- Spaces before the first break, the last first. -/
  spaces : List Char := []
  first : Option (List Char) := none
  more : List Char := []
  deriving DecidableEq, Repr, Inhabited

namespace Gap

def isBroken (g : Gap) : Bool := g.first.isSome

def text (g : Gap) : List Char :=
  match g.first with
  | none => g.spaces.reverse
  | some ['\n'] => if g.more.isEmpty then [' '] else g.more
  | some b => b ++ g.more

/-- Reads white space after what was read of it. A tab must not take part in the indentation of a
    plain scalar, of which the least column is given. -/
def readFrom (indent : Option Nat) : Nat → Gap → Place → Except Fault (Gap × Place)
  | 0, _, _ => .error .exhausted
  | fuel + 1, g, p =>
    match p.peek with
    | none => .ok (g, p)
    | some c =>
      if isSpacing c then
        if g.isBroken then
          if c == '\t' && before indent p.column then .error .tabIndent
          else readFrom indent fuel g p.skip
        else readFrom indent fuel { g with spaces := c :: g.spaces } p.skip
      else if isBreak c then
        let (b, q) := p.readBreak
        if g.isBroken then readFrom indent fuel { g with more := g.more ++ b } q
        else readFrom indent fuel { g with spaces := [], first := some b } q
      else .ok (g, p)

end Gap

/-! ## Quoted scalars -/

def escapedChar? : Char → Option Char
  | '0' => some '\x00'
  | 'a' => some '\x07'
  | 'b' => some '\x08'
  | 't' => some '\t'
  | '\t' => some '\t'
  | 'n' => some '\n'
  | 'v' => some '\x0b'
  | 'f' => some '\x0c'
  | 'r' => some '\r'
  | 'e' => some '\x1b'
  | ' ' => some ' '
  | '"' => some '"'
  | '/' => some '/'
  | '\\' => some '\\'
  | 'N' => some '\u0085'
  | '_' => some '\u00a0'
  | 'L' => some '\u2028'
  | 'P' => some '\u2029'
  | _ => none

def escapeSize? : Char → Option Nat
  | 'x' => some 2
  | 'u' => some 4
  | 'U' => some 8
  | _ => none

def readEscape (p : Place) : Except Fault (Char × Place) :=
  match p.peek with
  | none => .error .escape
  | some c =>
    match escapedChar? c, escapeSize? c with
    | some e, _ => .ok (e, p.skip)
    | none, some size =>
      let digits := p.skip.rest.take size
      match Node.digitsValue? 16 digits with
      | some n =>
        if digits.length = size ∧ n.isValidChar then .ok (Char.ofNat n, p.skip.skipN size)
        else .error .escape
      | none => .error .escape
    | none, none => .error .escape

def atEscapedBreak (p : Place) : Bool :=
  p.begins '\\' && (p.peekAt 1).any isBreak

/-- Reads a quoted scalar after its opening quote; `done` holds what was read, the last first. -/
def readQuotedFrom (quote : Char) : Nat → List Char → Place → Except Fault (List Char × Place)
  | 0, _, _ => .error .exhausted
  | fuel + 1, done, p =>
    if p.atDocumentMark then .error .documentMark
    else
      match p.peek with
      | none => .error .unclosedQuote
      | some c =>
        if c == quote then
          if quote == '\'' && p.peekAt 1 == some '\'' then
            readQuotedFrom quote fuel ('\'' :: done) (p.skipN 2)
          else .ok (done.reverse, p.skip)
        else if quote == '"' && atEscapedBreak p then
          match Gap.readFrom none (p.rest.length + 1) { first := some [] } p.skip.skipBreak with
          | .ok (g, q) => readQuotedFrom quote fuel (g.text.reverse ++ done) q
          | .error e => .error e
        else if quote == '"' && c == '\\' then
          match readEscape p.skip with
          | .ok (e, q) => readQuotedFrom quote fuel (e :: done) q
          | .error e => .error e
        else if isSpacing c || isBreak c then
          match Gap.readFrom none (p.rest.length + 1) {} p with
          | .ok (g, q) => readQuotedFrom quote fuel (g.text.reverse ++ done) q
          | .error e => .error e
        else readQuotedFrom quote fuel (c :: done) p.skip

def readQuoted (quote : Char) (p : Place) : Except Fault (List Char × Place) :=
  readQuotedFrom quote (p.rest.length + 2) [] p.skip

def flowSigns : List Char := [',','?','[',']','\x7b','\x7d']

def plainEnds (inFlow : Bool) (p : Place) (c : Char) : Bool :=
  (c == ':' && Place.isGap (p.peekAt 1)) || (inFlow && flowSigns.contains c)

/-- Whether a colon stands directly before a sign that ends the scalar. -/
def strayColon (inFlow : Bool) (p : Place) (c : Char) : Bool :=
  inFlow && c == ':' && (p.peekAt 1).any flowSigns.contains

/-- Reads a plain scalar after what was read of it and a gap, up to its end; the result also says
    whether a line break follows it. -/
def readPlainFrom (inFlow : Bool) (indent : Nat) :
    Nat → List Char → Gap → Place → Except Fault (List Char × Bool × Place)
  | 0, _, _, _ => .error .exhausted
  | fuel + 1, done, gap, p =>
    let stop := .ok (done.reverse, gap.isBroken, p)
    match p.peek with
    | none => stop
    | some c =>
      if isSpacing c || isBreak c then
        match Gap.readFrom (some indent) (p.rest.length + 1) {} p with
        | .error e => .error e
        | .ok (g, q) =>
          if (!inFlow && q.column < indent) || q.atDocumentMark || q.begins '#' then
            .ok (done.reverse, g.isBroken, q)
          else readPlainFrom inFlow indent fuel done g q
      else if strayColon inFlow p c then .error .colon
      else if plainEnds inFlow p c then stop
      else readPlainFrom inFlow indent fuel (c :: (gap.text.reverse ++ done)) {} p.skip

/-- Reads a plain scalar of which further lines begin at the column or after it. -/
def readPlain (inFlow : Bool) (indent : Nat) (p : Place) : Except Fault (List Char × Bool × Place) :=
  readPlainFrom inFlow indent (p.rest.length + 2) [] {} p

/-! ## Blocks -/

/-- What becomes of the line breaks at the end of a block. -/
inductive Chomping where
  | strip
  | clip
  | keep
  deriving DecidableEq, Repr

def chomping? : Option Char → Option Chomping
  | some '-' => some .strip
  | some '+' => some .keep
  | _ => none

def indicator? : Option Char → Except Fault (Option Nat)
  | some c =>
    if c == '0' then .error .blockHeader
    else if '1' ≤ c ∧ c ≤ '9' then .ok (some (c.toNat - '0'.toNat))
    else .ok none
  | none => .ok none

/-- The chomping and the indentation in the head of a block, in either order. -/
def readHeader (p : Place) : Except Fault (Chomping × Option Nat × Place) := do
  match chomping? p.peek with
  | some chomp =>
    let p := p.skip
    match ← indicator? p.peek with
    | some n => return (chomp, some n, p.skip)
    | none => return (chomp, none, p)
  | none =>
    match ← indicator? p.peek with
    | some n =>
      let p := p.skip
      match chomping? p.peek with
      | some chomp => return (chomp, some n, p.skip)
      | none => return (.clip, some n, p)
    | none => return (.clip, none, p)

/-- Reads empty lines and the indentation after them. If the indentation of the block is not known,
    it is that of the deepest of these lines. -/
def readBreaks (indent : Option Nat) : Nat → Nat → List Char → Place →
    Except Fault (List Char × Nat × Place)
  | 0, _, _, _ => .error .exhausted
  | fuel + 1, deepest, breaks, p =>
    match p.peek with
    | some ' ' =>
      if indent.isNone || before indent p.column then readBreaks indent fuel deepest breaks p.skip
      else .ok (breaks, max deepest p.column, p)
    | some c =>
      let deepest := max deepest p.column
      if c == '\t' && (indent.isNone || before indent p.column) then .error .tabIndent
      else if isBreak c then
        let (b, q) := p.readBreak
        readBreaks indent fuel deepest (breaks ++ b) q
      else .ok (breaks, deepest, p)
    | none => .ok (breaks, max deepest p.column, p)

/-- Reads the lines of a block with the indentation. `lead` is the break of the last line and `more`
    are those of empty lines after it; `blankBefore` says that the last line began with white
    space. -/
def readLines (literal : Bool) (chomp : Chomping) (indent : Nat) :
    Nat → List Char → List Char → List Char → Bool → Place → Except Fault (List Char × Place)
  | 0, _, _, _, _, _ => .error .exhausted
  | fuel + 1, done, lead, more, blankBefore, p =>
    if p.column == indent && p.peek.isSome then
      let blank := p.peek.any isSpacing
      let folded := !literal && lead == ['\n'] && !blankBefore && !blank
      let joint := if folded then (if more.isEmpty then [' '] else []) else lead
      let (line, q) := p.readWhile (!isBreak ·)
      let (lead', q) := q.readBreak
      match readBreaks (some indent) (q.rest.length + 1) 0 [] q with
      | .error e => .error e
      | .ok (more', _, q) =>
        readLines literal chomp indent fuel
          (line.reverse ++ more.reverse ++ joint.reverse ++ done) lead' more' blank q
    else
      let lastBreaks := match chomp with
        | .strip => []
        | .clip => lead
        | .keep => lead ++ more
      .ok (done.reverse ++ lastBreaks, p)

/-- Reads a block scalar inside a collection that begins at the column, if there is one. -/
def readBlock (literal : Bool) (outer : Option Nat) (p : Place) :
    Except Fault (List Char × Place) := do
  let (chomp, size, p) ← readHeader p.skip
  let p ← p.finishLine .blockHeader
  let fuel := p.rest.length + 2
  let least := (outer.map (· + 1)).getD 0
  match size with
  | some n =>
    let indent := outer.getD 0 + n
    let (more, _, p) ← readBreaks (some indent) fuel 0 [] p
    readLines literal chomp indent fuel [] [] more false p
  | none =>
    let (more, deepest, p) ← readBreaks none fuel 0 [] p
    readLines literal chomp (max (max deepest least) 1) fuel [] [] more false p

end TabCompletion.Yaml
