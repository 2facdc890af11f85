import TabCompletion.Text.Utf8
import TabCompletion.Yaml.Scalar

/-!
# Tokens of YAML text

`Token.scan` gives the tokens of a text: scalars, names, signs, and the starts and ends of blocks,
which follow from the indentation. A key that has no sign of its own is recognised by the colon
after it, on the same line and within 1024 characters; until that is decided, the tokens from the
possible key on are held back. A text that is not well formed gives the tokens before its fault.
-/
namespace TabCompletion.Yaml

inductive Token where
  | version (major minor : Nat)
  | tagDirective (handle start : String)
  | documentStart
  | documentEnd
  | blockSequenceStart
  | blockMappingStart
  | blockEnd
  | flowSequenceStart
  | flowSequenceEnd
  | flowMappingStart
  | flowMappingEnd
  | blockEntry
  | flowEntry
  | key
  | value
  | reference (name : String)
  | anchor (name : String)
  | tag (handle suffix : String)
  | scalar (content : String) (form : ScalarForm)
  | streamEnd
  deriving DecidableEq, Repr, Inhabited

def readName (p : Place) : Except Fault (String × Place) :=
  let (name, q) := p.skip.readWhile isNameChar
  let follows := Place.isGap q.peek ||
    q.peek.any ['?',':',',',']','\x7d','%','@','\x60'].contains
  if name.isEmpty || !follows then .error .anchor else .ok (String.ofList name, q)

/-- The handle of a tag: an exclamation mark, or a name between two. A directive needs both. -/
def readHandle (directive : Bool) (p : Place) : Except Fault (List Char × Place) :=
  if !p.begins '!' then .error .tag
  else
    let (name, q) := p.skip.readWhile isNameChar
    if q.begins '!' then .ok ('!' :: name ++ ['!'], q.skip)
    else if directive && !name.isEmpty then .error .tag
    else .ok ('!' :: name, q)

def tagSigns : List Char :=
  [';','/','?',':','@','&','=','+','$','.','!','~','*','\'','(',')']

def escapedBytes : Nat → List Char → Bytes
  | n + 1, '%' :: a :: b :: rest =>
    match Node.digitsValue? 16 [a,b] with
    | some byte => UInt8.ofNat byte :: escapedBytes n rest
    | none => []
  | _, _ => []

/-- The text of a tag; signs of collections are part of it only if `full`. -/
def readTagText (full : Bool) : Nat → List Char → Place → Except Fault (List Char × Place)
  | 0, _, _ => .error .exhausted
  | fuel + 1, done, p =>
    match p.peek with
    | some '%' =>
      match Utf8.headChar? (escapedBytes 4 p.rest) with
      | some (c, _) => readTagText full fuel (c :: done) (p.skipN (3 * c.utf8Size))
      | none => .error .tag
    | some c =>
      if isNameChar c || tagSigns.contains c || (full && [',','[',']'].contains c) then
        readTagText full fuel (c :: done) p.skip
      else .ok (done.reverse, p)
    | none => .ok (done.reverse, p)

def readTag (inFlow : Bool) (p : Place) : Except Fault (Token × Place) := do
  let text (full : Bool) (start : List Char) (q : Place) : Except Fault (List Char × Place) :=
    readTagText full (q.rest.length + 1) start.reverse q
  let finish (handle suffix : List Char) (q : Place) : Except Fault (Token × Place) :=
    if Place.isGap q.peek || (inFlow && q.begins ',') then
      .ok (.tag (String.ofList handle) (String.ofList suffix), q)
    else .error .tag
  if p.peekAt 1 == some '<' then
    let (suffix, q) ← text true [] (p.skipN 2)
    if suffix.isEmpty || !q.begins '>' then .error .tag
    else finish [] suffix q.skip
  else
    let (handle, q) ← readHandle false p
    if handle.length > 1 && handle.getLast? == some '!' then
      let (suffix, q) ← text false [] q
      if suffix.isEmpty then .error .tag
      else finish handle suffix q
    else
      let (suffix, q) ← text false (handle.drop 1) q
      if suffix.isEmpty then finish [] ['!'] q else finish ['!'] suffix q

def readNumber (p : Place) : Except Fault (Nat × Place) :=
  let (digits, q) := p.readWhile Char.isDigit
  match Node.digitsValue? 10 digits with
  | some n => if digits.length < 10 then .ok (n, q) else .error .directive
  | none => .error .directive

def readDirective (p : Place) : Except Fault (Token × Place) := do
  let (name, q) := p.skip.readWhile isNameChar
  if !Place.isGap q.peek then throw .directive
  let q := q.skipWhile isSpacing
  let (token, q) ← match String.ofList name with
    | "YAML" => do
      let (major, q) ← readNumber q
      if !q.begins '.' then throw .directive
      let (minor, q) ← readNumber q.skip
      pure (Token.version major minor, q)
    | "TAG" => do
      let (handle, q) ← readHandle true q
      if !q.peek.any isSpacing then throw .directive
      let q := q.skipWhile isSpacing
      let (start, q) ← readTagText true (q.rest.length + 1) [] q
      if start.isEmpty || !Place.isGap q.peek then throw .directive
      pure (Token.tagDirective (String.ofList handle) (String.ofList start), q)
    | _ => throw .directive
  return (token, ← q.finishLine .directive)

/-! ## Scanning -/

/-- A place where a key may have begun: whether a key must be there, the number of the token, and
    where the token is. -/
structure PossibleKey where
  required : Bool
  number : Nat
  index : Nat
  line : Nat
  column : Nat
  deriving DecidableEq, Repr

/-- The state of scanning: the place, the tokens that are held back with the number of those that are
    not, the indentation of the blocks around the place, and the possible keys of the collections
    in brackets around it, the innermost first. -/
structure Scanner where
  place : Place
  queue : List Token := []
  taken : Nat := 0
  indent : Option Nat := none
  outer : List (Option Nat) := []
  keyAllowed : Bool := true
  keys : List (Option PossibleKey) := [none]
  ended : Bool := false

namespace Scanner

/-- The longest key that needs no sign. -/
def keyLimit : Nat := 1024

def inFlow (s : Scanner) : Bool := s.keys.length > 1

def put (t : Token) (s : Scanner) : Scanner := { s with queue := s.queue ++ [t] }

def putAt (number : Nat) (t : Token) (s : Scanner) : Scanner :=
  let n := number - s.taken
  { s with queue := s.queue.take n ++ t :: s.queue.drop n }

def isStale (p : Place) (k : PossibleKey) : Bool :=
  k.line < p.line || k.index + keyLimit < p.index

def dropStale (s : Scanner) : Except Fault Scanner :=
  let lost := s.keys.filterMap fun k => k.filter (isStale s.place)
  if lost.any (·.required) then .error .keyExpected
  else .ok { s with keys := s.keys.map fun k => k.filter (!isStale s.place ·) }

def dropKey (s : Scanner) : Except Fault Scanner :=
  match s.keys with
  | some k :: rest => if k.required then .error .keyExpected else .ok { s with keys := none :: rest }
  | _ => .ok s

/-- Notes that a key may begin here, if one is allowed here. -/
def noteKey (s : Scanner) : Except Fault Scanner := do
  if !s.keyAllowed then return s
  let s ← s.dropKey
  let p := s.place
  let required := !s.inFlow && s.indent == some p.column
  let k : PossibleKey := ⟨required,s.taken + s.queue.length,p.index,p.line,p.column⟩
  return { s with keys := some k :: s.keys.drop 1 }

/-- The blocks that end before a column: how many, and the indentation around them. -/
def unrollFrom (column : Option Nat) : Option Nat → List (Option Nat) →
    Nat × Option Nat × List (Option Nat)
  | none, outer => (0, none, outer)
  | some i, outer =>
    if column.all (· < i) then
      match outer with
      | [] => (1, none, [])
      | next :: rest =>
        let (n, indent, outer) := unrollFrom column next rest
        (n + 1, indent, outer)
    else (0, some i, outer)

/-- Ends the blocks that are deeper than a column, or all blocks. -/
def unroll (column : Option Nat) (s : Scanner) : Scanner :=
  if s.inFlow then s
  else
    let (n, indent, outer) := unrollFrom column s.indent s.outer
    { s with indent, outer, queue := s.queue ++ List.replicate n .blockEnd }

/-- Begins a block at a column that is deeper than the blocks around it; its token stands before the
    one with the number, if there is a number. -/
def roll (column : Nat) (number : Option Nat) (t : Token) (s : Scanner) : Scanner :=
  if s.inFlow || s.indent.any (column ≤ ·) then s
  else
    let s := { s with indent := some column, outer := s.indent :: s.outer }
    match number with
    | some n => s.putAt n t
    | none => s.put t

def byteOrderMark : Char := '\uFEFF'

/-- Skips white space, comments and line breaks. A line break between blocks allows a key. -/
def skipBlanks : Nat → Scanner → Scanner
  | 0, s => s
  | fuel + 1, s =>
    let tabs := s.inFlow || !s.keyAllowed
    let p := if s.place.column = 0 ∧ s.place.begins byteOrderMark then s.place.skip else s.place
    let p := p.skipWhile fun c => c == ' ' || (tabs && c == '\t')
    let p := if p.begins '#' then p.skipLine else p
    if p.peek.any isBreak then
      skipBlanks fuel { s with place := p.skipBreak, keyAllowed := s.keyAllowed || !s.inFlow }
    else { s with place := p }

def sign (t : Token) (s : Scanner) : Scanner := { s with place := s.place.skip }.put t

def putRead (s : Scanner) (keyAllowed : Bool) (read : Token × Place) : Scanner :=
  { s with place := read.2, keyAllowed }.put read.1

def fetchValue (s : Scanner) : Except Fault Scanner :=
  match s.keys with
  | some k :: rest =>
    let s := { s with keys := none :: rest, keyAllowed := false }
    .ok (((s.putAt k.number .key).roll k.column (some k.number) .blockMappingStart).sign .value)
  | _ =>
    if s.inFlow then .ok ({ s with keyAllowed := false }.sign .value)
    else if !s.keyAllowed then .error .valueNotAllowed
    else
      .ok ({ s.roll s.place.column none .blockMappingStart with keyAllowed := true }.sign .value)

def fetchKey (s : Scanner) : Except Fault Scanner := do
  if !s.inFlow && !s.keyAllowed then throw .keyNotAllowed
  let s := s.roll s.place.column none .blockMappingStart
  let s ← s.dropKey
  return { s with keyAllowed := !s.inFlow }.sign .key

def fetchEntry (s : Scanner) : Except Fault Scanner := do
  if !s.inFlow && !s.keyAllowed then throw .entryNotAllowed
  let s := s.roll s.place.column none .blockSequenceStart
  let s ← s.dropKey
  return { s with keyAllowed := true }.sign .blockEntry

def fetchOpening (t : Token) (s : Scanner) : Except Fault Scanner := do
  let s ← s.noteKey
  return { s with keys := none :: s.keys, keyAllowed := true }.sign t

def fetchClosing (t : Token) (s : Scanner) : Except Fault Scanner := do
  let s ← s.dropKey
  let keys := if s.inFlow then s.keys.drop 1 else s.keys
  return { s with keys, keyAllowed := false }.sign t

/-- What stands between documents ends all blocks. -/
def endBlocks (s : Scanner) : Except Fault Scanner := do
  let s ← (s.unroll none).dropKey
  return { s with keyAllowed := false }

def fetchEnd (s : Scanner) : Except Fault Scanner := do
  let p := s.place
  let s := if p.column = 0 then s else { s with place := { p with line := p.line + 1, column := 0 } }
  let s ← s.endBlocks
  return { s with ended := true }.put .streamEnd

def scalarToken (form : ScalarForm) (content : List Char) : Token :=
  .scalar (String.ofList content) form

/-- A quoted or plain scalar, a name or a tag: what may be a key. -/
def fetchInline (c : Char) (s : Scanner) : Except Fault Scanner := do
  let s ← s.noteKey
  match c with
  | '*' => do
    let (name, q) ← readName s.place
    return s.putRead false (.reference name, q)
  | '&' => do
    let (name, q) ← readName s.place
    return s.putRead false (.anchor name, q)
  | '!' => return s.putRead false (← readTag s.inFlow s.place)
  | '"' => do
    let (content, q) ← readQuoted '"' s.place
    return s.putRead false (scalarToken .quoted content, q)
  | '\'' => do
    let (content, q) ← readQuoted '\'' s.place
    return s.putRead false (scalarToken .quoted content, q)
  | _ => do
    let indent := (s.indent.map (· + 1)).getD 0
    let (content, broken, q) ← readPlain s.inFlow indent s.place
    return s.putRead broken (scalarToken .plain content, q)

def fetchBlock (literal : Bool) (s : Scanner) : Except Fault Scanner := do
  let s ← s.dropKey
  let (content, q) ← readBlock literal s.indent s.place
  return s.putRead true (scalarToken (if literal then .literal else .quoted) content, q)

def indicators : List Char :=
  ['-','?',':',',','[',']','\x7b','\x7d','#','&','*','!','|','>','\'','"','%','@',
    '\x60']

def plainBegins (s : Scanner) (c : Char) : Bool :=
  let next := s.place.peekAt 1
  !(Place.isGap (some c) || indicators.contains c) ||
    (c == '-' && !next.any isSpacing) ||
    (!s.inFlow && (c == '?' || c == ':') && !Place.isGap next)

def fetch (s : Scanner) : Except Fault Scanner := do
  let s ← (s.skipBlanks (s.place.rest.length + 1)).dropStale
  let s := s.unroll (some s.place.column)
  let p := s.place
  match p.peek with
  | none => s.fetchEnd
  | some c =>
    let beforeGap := Place.isGap (p.peekAt 1)
    if p.column = 0 ∧ c = '%' then
      let s ← s.endBlocks
      return s.putRead false (← readDirective p)
    else if p.atDocumentMark then
      let s ← s.endBlocks
      return s.putRead false (if c = '-' then .documentStart else .documentEnd, p.skipN 3)
    else if c = '[' then s.fetchOpening .flowSequenceStart
    else if c = '\x7b' then s.fetchOpening .flowMappingStart
    else if c = ']' then s.fetchClosing .flowSequenceEnd
    else if c = '\x7d' then s.fetchClosing .flowMappingEnd
    else if c = ',' then
      let s ← s.dropKey
      return { s with keyAllowed := true }.sign .flowEntry
    else if c = '-' ∧ beforeGap then s.fetchEntry
    else if c = '?' ∧ (s.inFlow ∨ beforeGap) then s.fetchKey
    else if c = ':' ∧ (s.inFlow ∨ beforeGap) then s.fetchValue
    else if c = '|' ∧ !s.inFlow then s.fetchBlock true
    else if c = '>' ∧ !s.inFlow then s.fetchBlock false
    else if ['*','&','!','"','\''].contains c || s.plainBegins c then s.fetchInline c
    else throw .start

/-- Whether the first token held back can be given: no key may begin with it. -/
def isSettled (s : Scanner) : Bool :=
  !s.queue.isEmpty && !s.keys.any fun k => k.any (·.number == s.taken)

/-- The tokens that are given from a state on, and the fault that ends them if there is one. -/
def run : Nat → Scanner → List Token × Option Fault
  | 0, _ => ([], some .exhausted)
  | fuel + 1, s =>
    match (if s.queue.isEmpty then .ok s else s.dropStale) with
    | .error e => ([], some e)
    | .ok s =>
      match s.isSettled, s.queue with
      | true, t :: rest =>
        if t = .streamEnd then ([t], none)
        else
          let (more, fault) := run fuel { s with queue := rest, taken := s.taken + 1 }
          (t :: more, fault)
      | _, _ =>
        match s.fetch with
        | .ok s => run fuel s
        | .error e => ([], some e)

end Scanner

def isAccepted (c : Char) : Bool :=
  let n := c.toNat
  c == '\t' || c == '\n' || c == '\r' || (0x20 ≤ n && n ≤ 0x7E) || n == 0x85 ||
    (0xA0 ≤ n && n ≤ 0xFFFD) || 0x10000 ≤ n

def Token.scan (text : String) : List Token × Option Fault :=
  let cs := match text.toList with
    | [] => []
    | c :: rest => if c = Scanner.byteOrderMark then rest else c :: rest
  if cs.all isAccepted then Scanner.run (10 * (cs.length + 4)) { place := ⟨cs,0,0,0⟩ }
  else ([], some .character)

end TabCompletion.Yaml
