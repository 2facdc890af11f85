/-!
# Sets of characters

A set of code points as ranges, in order and apart from each other. The set operations keep that
form: `normalize` makes it from any ranges, and the others go through it. The same sets serve for
bytes, with 0xFF as the greatest element of a complement.
-/
namespace TabCompletion

def hexNat (s : String) : Nat :=
  s.toList.foldl (fun n c =>
    let d :=
      if '0' ≤ c ∧ c ≤ '9' then c.toNat - '0'.toNat
      else if 'a' ≤ c ∧ c ≤ 'f' then c.toNat - 'a'.toNat + 10
      else if 'A' ≤ c ∧ c ≤ 'F' then c.toNat - 'A'.toNat + 10
      else 0
    n * 16 + d) 0

/-- Ranges `(least, greatest)` of code points. -/
abbrev CharSet := List (Nat × Nat)

namespace CharSet

def top : Nat := 0x10FFFF

/-- Whether a code point is in one of the ranges. The ranges are in order, so the search ends at
    the first that begins above it. -/
def contains : CharSet → Nat → Bool
  | [], _ => false
  | (lo, hi) :: rest, n => if n < lo then false else n ≤ hi || contains rest n

/-- The set with one more range, which joins those that it touches. -/
def insert (lo hi : Nat) : CharSet → CharSet
  | [] => [(lo, hi)]
  | (lo', hi') :: rest =>
    if hi + 1 < lo' then (lo, hi) :: (lo', hi') :: rest
    else if hi' + 1 < lo then (lo', hi') :: insert lo hi rest
    else insert (min lo lo') (max hi hi') rest

/-- The same code points as ranges in order and apart from each other. -/
def normalize (ranges : List (Nat × Nat)) : CharSet :=
  ranges.foldr (fun (lo, hi) set => if lo ≤ hi then insert lo hi set else set) []

def range (lo hi : Nat) : CharSet := if lo ≤ hi then [(lo, hi)] else []

def single (n : Nat) : CharSet := [(n, n)]

def union (a b : CharSet) : CharSet :=
  if a.isEmpty then b else if b.isEmpty then a else normalize (a ++ b)

def unionAll (sets : List CharSet) : CharSet := normalize sets.flatten

def gaps (next greatest : Nat) : CharSet → CharSet
  | [] => range next greatest
  | (lo, hi) :: rest =>
    if lo ≤ next then gaps (max next (hi + 1)) greatest rest
    else (next, lo - 1) :: gaps (hi + 1) greatest rest

def complementUpTo (greatest : Nat) (a : CharSet) : CharSet := gaps 0 greatest a

def complement (a : CharSet) : CharSet := a.complementUpTo top

def inter (a b : CharSet) : CharSet := (a.complement.union b.complement).complement

def difference (a b : CharSet) : CharSet := (a.complement.union b).complement

def symmetricDifference (a b : CharSet) : CharSet := (a.union b).difference (a.inter b)

/-- The set of lines of hexadecimal ranges such as `41-5A 61`. -/
def ofText (lines : List String) : CharSet :=
  normalize <| lines.flatMap fun line => (line.splitOn " ").filterMap fun item =>
    if item.isEmpty then none
    else match item.splitOn "-" with
      | [lo,hi] => some (hexNat lo, hexNat hi)
      | _ => some (hexNat item, hexNat item)

end CharSet
end TabCompletion
