import TabCompletion.Process.Basic

/-!
# Terminals

A terminal stands between keys and a program. It edits lines, shows what is typed, turns some keys
into signals, and ends printed lines with CR LF, each as its mode says. `receive` is the effect of one
key, `typeKeys` that of keys which come together, `take?` what the program reads, and `print` the way
of its output.
-/
namespace TabCompletion

/-- A terminal: its mode, the input that the program can read, the line that is being typed, and the
    output that was not fetched. -/
structure Terminal where
  mode : TerminalMode := {}
  /-- Complete lines. A line that was ended without a line break has none; an empty one is the end of
      the input. -/
  ready : List Bytes := []
  /-- The line that is being typed; all input, if lines are not edited. -/
  line : Bytes := []
  /-- Whether the next key is taken as it is. -/
  quoteNext : Bool := false
  /-- Whether the output is stopped. -/
  stopped : Bool := false
  output : Bytes := []
  /-- Output that comes when the output is started again. -/
  held : Bytes := []
  /-- What is to be shown of the keys that came together. -/
  echoed : Bytes := []
  /-- The column of the cursor, and the one in which the line began. -/
  column : Nat := 0
  lineColumn : Nat := 0
  deriving DecidableEq, Repr, Inhabited

namespace Terminal

def emit (t : Terminal) (bytes : Bytes) : Terminal :=
  if t.stopped then { t with held := t.held ++ bytes } else { t with output := t.output ++ bytes }

def start (t : Terminal) : Terminal :=
  { t with stopped := false, output := t.output ++ t.held, held := [] }

def processed (m : TerminalMode) (bytes : Bytes) : Bytes :=
  if m.processing && m.newlineIsPair then
    bytes.flatMap fun b => if b = 10 then [13,10] else [b]
  else bytes

def columnAfter (column : Nat) (b : UInt8) : Nat :=
  match b with
  | 8 => column - 1
  | 9 => column + 8 - column % 8
  | 13 => 0
  | b => if b < 32 || b = 127 then column else column + 1

def moveCursor (t : Terminal) (bytes : Bytes) : Terminal :=
  if t.mode.processing then { t with column := bytes.foldl columnAfter t.column } else t

def print (t : Terminal) (bytes : Bytes) : Terminal :=
  let bytes := processed t.mode bytes
  (t.emit bytes).moveCursor bytes

def isControl (b : UInt8) : Bool := b < 32 || b = 127

def shown (m : TerminalMode) (b : UInt8) : Bytes :=
  if m.caretEcho && isControl b && b != 9 then [94,b ^^^ 64] else processed m [b]

/-- Shows bytes, if keys are shown. -/
def echo (t : Terminal) (bytes : Bytes) : Terminal :=
  if t.mode.echo then ({ t with echoed := t.echoed ++ bytes } : Terminal).moveCursor bytes else t

def echoKey (t : Terminal) (b : UInt8) : Terminal := t.echo (shown t.mode b)

/-- The columns that a key takes which is no tab. -/
def width (m : TerminalMode) (b : UInt8) : Nat :=
  if isControl b then if m.caretEcho then 2 else 0 else 1

/-- How far the cursor goes back over a tab that ends what was typed before it: to the column behind
    it, which is known from the last tab or from the start of the line. -/
def tabWidth (t : Terminal) (before : Bytes) : Nat :=
  let after := before.reverse.takeWhile (· != 9)
  let columns := after.foldl (fun n b => n + width t.mode b) 0
  8 - (if before.contains 9 then columns else columns + t.lineColumn) % 8

def eraseByte (t : Terminal) : Terminal :=
  match t.line.getLast? with
  | none => t
  | some b =>
    let t := { t with line := t.line.dropLast }
    if b = 9 then t.echo (List.replicate (t.tabWidth t.line) 8)
    else t.echo (List.replicate (width t.mode b) [8,32,8]).flatten

def erase (t : Terminal) (count : Nat) : Terminal := count.repeat eraseByte t

def inWord (b : UInt8) : Bool :=
  let c := Char.ofNat b.toNat
  b < 128 && (c.isAlphanum || c = '_')

/-- The number of bytes of the last word of a line and of what follows it. -/
def lastWord (line : Bytes) : Nat :=
  let back := line.reverse
  let gap := back.takeWhile (!inWord ·)
  gap.length + ((back.drop gap.length).takeWhile inWord).length

/-! ## Keys -/

def endKey : UInt8 := 4

def eraseKey : UInt8 := 127
def eraseWordKey : UInt8 := 23
def eraseLineKey : UInt8 := 21

def quoteKey : UInt8 := 22

def redrawKey : UInt8 := 18

/-- The signal that a key sends; none inside for one that only stops programs in the background. -/
def signalOf? (b : UInt8) : Option (Option Signal) :=
  match b with
  | 3 => some (some .interrupt)
  | 28 => some (some .quit)
  | 26 => some none
  | _ => none

def eraseLine (t : Terminal) : Terminal :=
  if t.mode.eraseEcho then t.erase t.line.length
  else (({ t with line := [] } : Terminal).echoKey eraseLineKey).echo (processed t.mode [10])

def eraseLast (t : Terminal) : Terminal :=
  if t.line.isEmpty then t
  else if t.mode.eraseEcho then t.eraseByte
  else ({ t with line := t.line.dropLast } : Terminal).echoKey eraseKey

def complete (t : Terminal) (ending : Bytes) : Terminal :=
  { t with ready := t.ready ++ [t.line ++ ending], line := [] }

/-- The most bytes of a line that is edited, without its end. -/
def lineLimit : Nat := 4095

/-- Takes a key as it is. A line that is full shows it, but does not get longer. -/
def insert (t : Terminal) (b : UInt8) : Terminal :=
  let t := if t.line.isEmpty then { t with lineColumn := t.column } else t
  let t := t.echoKey b
  if t.mode.canonical && lineLimit ≤ t.line.length then t else { t with line := t.line ++ [b] }

def edit (t : Terminal) (b : UInt8) : Terminal :=
  if b = eraseKey then t.eraseLast
  else if b = eraseWordKey then t.erase (lastWord t.line)
  else if b = eraseLineKey then t.eraseLine
  else if b = quoteKey then
    let t := { t with quoteNext := true }
    if t.mode.caretEcho then t.echo [94,8] else t
  else if b = redrawKey ∧ t.mode.echo then
    t.echo (shown t.mode b ++ processed t.mode [10] ++ t.line.flatMap (shown t.mode))
  else if b = 10 then (t.echo (processed t.mode [10])).complete [10]
  else if b = endKey then t.complete []
  else t.insert b

/-- The effect of a key, and the signal that it sends. A signal drops what was typed and not read, and
    what was to be shown of it. -/
def receive (t : Terminal) (b : UInt8) : Terminal × Option Signal :=
  if t.quoteNext then (({ t with quoteNext := false } : Terminal).insert b, none)
  else if t.mode.flowControl && b = 19 then ({ t with stopped := true }, none)
  else if t.mode.flowControl && b = 17 then (t.start, none)
  else
    match if t.mode.signals then signalOf? b else none with
    | some signal =>
      (({ t.start with ready := [], line := [], echoed := [] } : Terminal).echoKey b, signal)
    | none =>
      let b := if t.mode.returnIsNewline && b = 13 then 10 else b
      (if t.mode.canonical then t.edit b else t.insert b, none)

def typeKeys (t : Terminal) (keys : Bytes) : Terminal × List Signal :=
  let (t, signals) := keys.foldl (fun (t, signals) b =>
    let (t, s) := t.receive b
    (t, signals ++ s.toList)) (t, [])
  (({ t with echoed := [] } : Terminal).emit t.echoed, signals)

/-- At most so many bytes of input for the program, if there is any: no bytes are the end of the
    input. -/
def take? (t : Terminal) (limit : Nat) : Option (Bytes × Terminal) :=
  if t.mode.canonical then
    match t.ready with
    | [] => none
    | first :: rest =>
      let left := first.drop limit
      some (first.take limit, { t with ready := if left.isEmpty then rest else left :: rest })
  else if t.line.isEmpty then none
  else some (t.line.take limit, { t with line := t.line.drop limit })

/-- Changes the mode. Input that was typed under the old mode can be read at once under the new one. -/
def setMode (t : Terminal) (mode : TerminalMode) : Terminal :=
  if t.mode.canonical && !mode.canonical then
    { t with mode, line := t.ready.flatten ++ t.line, ready := [] }
  else if !t.mode.canonical && mode.canonical && !t.line.isEmpty then
    { t with mode, ready := [t.line], line := [] }
  else { t with mode }

def fetch (t : Terminal) (limit : Nat) : Bytes × Terminal :=
  (t.output.take limit, { t with output := t.output.drop limit })

end Terminal
end TabCompletion
