/-!
# UTF-8

Bytes are read as a list of `Item`s: characters, and malformed pieces. A malformed piece is the
longest run of bytes that begins a character and that no next byte continues (or one byte that
begins none). Both ways to decode are views of the items: `decode?` wants characters only and
otherwise names the first malformed piece, `decodeLossy` writes U+FFFD for each malformed piece.
-/
namespace TabCompletion

abbrev Bytes := List UInt8

namespace Utf8

def encodeChar (c : Char) : Bytes := String.utf8EncodeChar c

def encodeChars (cs : List Char) : Bytes := cs.flatMap encodeChar

def encode (s : String) : Bytes := encodeChars s.toList

inductive Item where
  | char (c : Char)
  /-- Bytes that begin no character or whose next byte does not continue them. -/
  | malformed (size : Nat)
  /-- Bytes that begin a character where the byte string ends. -/
  | unfinished (size : Nat)
  deriving DecidableEq, Repr

/-- A character of which `seen` bytes were read: its value so far, the range of the next byte, and
    how many bytes follow that one. -/
structure Started where
  seen : Nat
  value : Nat
  low : UInt8
  high : UInt8
  after : Nat
  deriving DecidableEq, Repr

/-- What the first byte of a piece begins: a whole character, a longer one, or nothing. -/
inductive Lead where
  | whole (c : Char)
  | started (p : Started)
  | none
  deriving DecidableEq, Repr

/-- The table of first bytes: the range of the second byte leaves out overlong forms, surrogates
    and values above U+10FFFF. -/
def lead (b : UInt8) : Lead :=
  if b < 0x80 then .whole (Char.ofNat b.toNat)
  else if b < 0xC2 then .none
  else if b < 0xE0 then .started ⟨1,b.toNat - 0xC0,0x80,0xBF,0⟩
  else if b < 0xF0 then
    .started ⟨1,b.toNat - 0xE0,if b = 0xE0 then 0xA0 else 0x80,if b = 0xED then 0x9F else 0xBF,1⟩
  else if b < 0xF5 then
    .started ⟨1,b.toNat - 0xF0,if b = 0xF0 then 0x90 else 0x80,if b = 0xF4 then 0x8F else 0xBF,2⟩
  else .none

/-- A further byte of a started character, if it is in range: the character, or more to come. -/
def Started.next (p : Started) (b : UInt8) : Lead :=
  if p.low ≤ b ∧ b ≤ p.high then
    let value := p.value * 64 + (b.toNat - 0x80)
    match p.after with
    | 0 => .whole (Char.ofNat value)
    | k + 1 => .started ⟨p.seen + 1,value,0x80,0xBF,k⟩
  else .none

/-- The pieces of the bytes, after the bytes of a started character if there is one. A started
    character that the next byte does not continue ends before that byte. -/
def itemsFrom : Option Started → Bytes → List Item
  | none, [] => []
  | some p, [] => [.unfinished p.seen]
  | none, b :: rest =>
    match lead b with
    | .whole c => .char c :: itemsFrom none rest
    | .started p => itemsFrom (some p) rest
    | .none => .malformed 1 :: itemsFrom none rest
  | some p, b :: rest =>
    match p.next b with
    | .whole c => .char c :: itemsFrom none rest
    | .started q => itemsFrom (some q) rest
    | .none =>
      .malformed p.seen ::
        match lead b with
        | .whole c => .char c :: itemsFrom none rest
        | .started q => itemsFrom (some q) rest
        | .none => .malformed 1 :: itemsFrom none rest

def items (bytes : Bytes) : List Item := itemsFrom none bytes

/-- Why bytes are not UTF-8: where the well-formed part ends, and how long the first malformed
    piece is, unless the bytes end inside it. -/
structure Fault where
  validUpTo : Nat
  malformed : Option Nat
  deriving DecidableEq, Repr

def Fault.message (f : Fault) : String :=
  match f.malformed with
  | some n => s!"invalid utf-8 sequence of {n} bytes from index {f.validUpTo}"
  | none => s!"incomplete utf-8 byte sequence from index {f.validUpTo}"

/-- The characters of items that are all characters; `offset` bytes were read before them. -/
def charsOf (offset : Nat) : List Item → Except Fault (List Char)
  | [] => .ok []
  | .char c :: rest =>
    match charsOf (offset + c.utf8Size) rest with
    | .ok cs => .ok (c :: cs)
    | .error f => .error f
  | .malformed n :: _ => .error ⟨offset,some n⟩
  | .unfinished _ :: _ => .error ⟨offset,none⟩

/-- The text of well-formed bytes, or the first fault. -/
def decode? (bytes : Bytes) : Except Fault String :=
  match charsOf 0 (items bytes) with
  | .ok cs => .ok (String.ofList cs)
  | .error f => .error f

def replacement : Char := '\uFFFD'

def Item.shown : Item → Char
  | .char c => c
  | .malformed _ => replacement
  | .unfinished _ => replacement

def decodeLossy (bytes : Bytes) : String := String.ofList ((items bytes).map Item.shown)

def Started.finish? : Started → Bytes → Option (Char × Bytes)
  | _, [] => none
  | p, b :: rest =>
    match p.next b with
    | .whole c => some (c, rest)
    | .started q => q.finish? rest
    | .none => none

/-- The first character of the bytes and the bytes after it, if they begin with one. -/
def headChar? : Bytes → Option (Char × Bytes)
  | [] => none
  | b :: rest =>
    match lead b with
    | .whole c => some (c, rest)
    | .started p => p.finish? rest
    | .none => none

def previewSize : Nat := 200

/-- The last `previewSize` bytes as text: enough of an answer to recognise it in a message. -/
def preview (bytes : Bytes) : String := decodeLossy (bytes.drop (bytes.length - previewSize))

end Utf8
end TabCompletion
