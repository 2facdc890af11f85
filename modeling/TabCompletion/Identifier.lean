import TabCompletion.Document.Record

/-!
# Identifiers

Runs and sessions are identified by 128-bit numbers, written as thirty-two hexadecimal digits in
groups. They are read with or without hyphens, in braces, or after `urn:uuid:`. `fresh` makes one of
the random kind from two words.
-/
namespace TabCompletion

structure Identifier where
  value : BitVec 128
  deriving DecidableEq, Repr, Inhabited

namespace Identifier

def hexDigitsOf (n : Nat) (value : Nat) : List Char :=
  (List.range n).reverse.map fun i => Nat.digitChar ((value >>> (4 * i)) % 16)

def display (id : Identifier) : String :=
  let ds := hexDigitsOf 32 id.value.toNat
  let part (start size : Nat) := (ds.drop start).take size
  String.ofList <| part 0 8 ++ '-' :: part 8 4 ++ '-' :: part 12 4 ++ '-' :: part 16 4 ++
    '-' :: part 20 12

def hexValue? (cs : List Char) : Option Nat := Node.digitsValue? 16 cs

def ofDigits? (cs : List Char) : Option Identifier :=
  if cs.length = 32 then (hexValue? cs).map fun n => ⟨BitVec.ofNat 128 n⟩ else none

def ofGroups? (cs : List Char) : Option Identifier :=
  if cs.length = 36 ∧ [8,13,18,23].all (fun i => cs[i]? == some '-') then
    ofDigits? (cs.filter (· != '-'))
  else none

def parse? (s : String) : Option Identifier :=
  let cs := s.toList
  match cs.length with
  | 32 => ofDigits? cs
  | 36 => ofGroups? cs
  | 38 =>
    if cs.head? = some '\x7b' ∧ cs.getLast? = some '\x7d' then ofGroups? ((cs.drop 1).dropLast)
    else none
  | 45 =>
    if (cs.take 9).map Char.toLower = "urn:uuid:".toList then ofGroups? (cs.drop 9) else none
  | _ => none

/-- An identifier of the random kind: the kind and the variant are marked, the rest is given. -/
def fresh (high low : UInt64) : Identifier :=
  let marked := high &&& 0xFFFFFFFFFFFF0FFF ||| 0x4000
  let variant := low &&& 0x3FFFFFFFFFFFFFFF ||| 0x8000000000000000
  ⟨marked.toBitVec ++ variant.toBitVec⟩

def nextWord (seed : UInt64) : UInt64 :=
  let z := seed + 0x9E3779B97F4A7C15
  let z := (z ^^^ (z >>> 30)) * 0xBF58476D1CE4E5B9
  let z := (z ^^^ (z >>> 27)) * 0x94D049BB133111EB
  z ^^^ (z >>> 31)

def ofSeries (seed : UInt64) (n : Nat) : Identifier :=
  let a := nextWord (seed + UInt64.ofNat (2 * n))
  let b := nextWord (seed + UInt64.ofNat (2 * n + 1))
  fresh a b

def read (n : Node) : Reading Identifier := do
  match parse? (← n.readString) with
  | some id => return id
  | none => .error (.malformed "an identifier")

end Identifier
end TabCompletion
