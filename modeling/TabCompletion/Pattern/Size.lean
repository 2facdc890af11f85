import TabCompletion.Pattern.Shape

/-!
# Sizes of compiled patterns

A pattern is refused if its automaton takes too much memory. There are two automata, one that reads
the bytes forward and one that reads them backward; `Shape.size` counts the bytes of one of them. A
counted repetition is written out, words among which one is chosen become a tree, and a set of
characters becomes the ranges of the bytes that its characters have in UTF-8. Backward, sequences of
ranges share what they begin with; forward, they share also what they end with. All states that can
be shared are taken to be.
-/
namespace TabCompletion.Pattern

inductive Direction where
  | forward
  | backward
  deriving DecidableEq, Repr

/-- A range of bytes, with both ends. -/
abbrev ByteRange := Nat × Nat

/-- The sequences of byte ranges for the numbers from `lo` to `hi` in a first byte and `k` bytes of
    six bits after it; `mark` is what the first byte holds besides its bits. -/
def rangesBetween (mark : Nat) : Nat → Nat → Nat → List (List ByteRange)
  | 0, lo, hi => [[(mark + lo, mark + hi)]]
  | k + 1, lo, hi =>
    let unit := Nat.pow 64 (k + 1)
    let first := lo / unit
    let last := hi / unit
    let under (digit a b : Nat) : List (List ByteRange) :=
      (rangesBetween 0x80 k a b).map ((mark + digit, mark + digit) :: ·)
    if first = last then under first (lo % unit) (hi % unit)
    else
      let whole := if lo % unit = 0 then first else first + 1
      let wholeEnd := if hi % unit = unit - 1 then last + 1 else last
      (if whole = first then [] else under first (lo % unit) (unit - 1)) ++
        (if whole < wholeEnd then
          [(mark + whole, mark + wholeEnd - 1) :: List.replicate (k + 1) (0x80, 0xBF)]
        else []) ++
        (if wholeEnd = last then under last 0 (hi % unit) else [])

/-- The characters by the length of their UTF-8: the least, the greatest, the mark of the first byte
    and the number of bytes after it. -/
def utf8Lengths : List (Nat × Nat × Nat × Nat) :=
  [(0, 0x7F, 0, 0),(0x80, 0x7FF, 0xC0, 1),(0x800, 0xD7FF, 0xE0, 2),(0xE000, 0xFFFF, 0xE0, 2),
    (0x10000, 0x10FFFF, 0xF0, 3)]

def sequencesOf (set : CharSet) : List (List ByteRange) :=
  set.flatMap fun (lo, hi) => utf8Lengths.flatMap fun (least, greatest, mark, k) =>
    if max lo least ≤ min hi greatest then rangesBetween mark k (max lo least) (min hi greatest)
    else []

/-- What follows each first range, for sequences in order. -/
def branches : List (List ByteRange) → List (ByteRange × List (List ByteRange))
  | [] => []
  | [] :: rest => branches rest
  | (r :: more) :: rest =>
    match branches rest with
    | (r', after) :: others =>
      if r = r' then (r, more :: after) :: others else (r, [more]) :: (r', after) :: others
    | [] => [(r, [more])]

/-- The places in sequences of at most `depth` ranges, each as what follows there. -/
def placesIn : Nat → List (List ByteRange) → List (List (List ByteRange))
  | 0, _ => []
  | depth + 1, sequences =>
    match branches sequences with
    | [] => []
    | next => sequences :: next.flatMap fun (_, after) => placesIn depth after

/-- The bytes of one state of an automaton; the sizes below are in bytes too. -/
def stateSize : Nat := 32

def stepSize : Nat := 8

def choiceSize : Nat := 4

def forkSize : Nat := stateSize + 2 * choiceSize

def byteSetSize (set : CharSet) : Nat := 2 * stateSize + stepSize * set.length

/-- How many ranges of a sequence come after those that it shares with the one before it. -/
def unshared : List ByteRange → List ByteRange → Nat
  | r :: rest, r' :: rest' => if r = r' then unshared rest rest' else rest'.length + 1
  | _, current => current.length

def charSetSize (d : Direction) (set : CharSet) : Nat :=
  if Shape.isAscii set then byteSetSize set
  else
    let sequences := sequencesOf set
    match d with
    | .forward =>
      ((placesIn 4 sequences).eraseDups.map fun place =>
        stateSize + stepSize * (branches place).length).foldl (· + ·) stateSize
    | .backward =>
      ((([] :: sequences).zip sequences).map fun (previous, current) =>
        stateSize * unshared previous current + choiceSize).foldl (· + ·) (2 * stateSize)

/-- What follows a byte among words. -/
abbrev Branch := UInt8 × List Bytes

/-- One more word in front of those that begin with the same byte. -/
def addBranch (b : UInt8) (more : Bytes) : List Branch → List Branch
  | [] => [(b, [more])]
  | (b', words) :: rest =>
    if b = b' then (b, more :: words) :: rest else (b', words) :: addBranch b more rest

/-- The branches for words, anew after each empty word: a match ends there, and what comes later is
    tried only after it. -/
def branchings : List Bytes → List (List Branch)
  | [] => [[]]
  | [] :: words => [] :: branchings words
  | (b :: more) :: words =>
    match branchings words with
    | first :: others => addBranch b more first :: others
    | [] => [addBranch b more []]

/-- The bytes of the states for words of at most `depth` bytes, without the state where they end. -/
def treeSize : Nat → List Bytes → Nat
  | 0, _ => 0
  | depth + 1, words =>
    -- Where nothing branches off yet, further matches are no choices.
    let words := match words with
      | [] :: rest => [] :: rest.dropWhile List.isEmpty
      | words => words
    let all := branchings words
    let taken := all.filter (!·.isEmpty)
    if taken.isEmpty then 0
    else
      let choices := taken.length + all.length - 1
      let steps := taken.map fun branches =>
        let one := stateSize + (if branches.length = 1 then 0 else stepSize * branches.length)
        one + (branches.map fun (_, words) => treeSize depth words).sum
      stateSize + choiceSize * choices + steps.sum

def wordsSize (d : Direction) (words : List Bytes) : Nat :=
  let words := match d with
    | .forward => words
    | .backward => words.map List.reverse
  stateSize + treeSize ((words.map List.length).foldl max 0) words

namespace Shape

/-- The length of the shortest match, if anything can match. -/
def leastLength : Shape → Option Nat
  | .empty => some 0
  | .word bytes => some bytes.length
  | .oneOf words => (words.map List.length).min?
  | .byteOf set => if set.isEmpty then none else some 1
  | .charOf set => set.head?.map fun (lo, _) => (Char.ofNat lo).utf8Size
  | .look _ => some 0
  | .group body => body.leastLength
  | .repeat body least _ _ => body.leastLength.map (least * ·)
  | .seq first rest => do return (← first.leastLength) + (← rest.leastLength)
  | .alt first rest => do return min (← first.leastLength) (← rest.leastLength)

def size (d : Direction) : Shape → Nat
  | .empty => stateSize
  | .word bytes => stateSize * bytes.length
  | .oneOf words => wordsSize d words
  | .byteOf set => byteSetSize set
  | .charOf set => charSetSize d set
  | .look _ => stateSize
  | .group body => body.size d + (if d = .forward then 2 * stateSize else 0)
  | .seq first rest => first.size d + rest.size d
  | .alt first rest =>
    match rest with
    | .alt _ _ => first.size d + choiceSize + rest.size d
    | _ => first.size d + rest.size d + 2 * stateSize + 2 * choiceSize
  | .repeat body least greatest _ =>
    let one := body.size d
    match greatest with
    | none =>
      if least = 0 then
        one + forkSize + (if body.leastLength.getD 0 = 0 then forkSize + stateSize else 0)
      else least * one + forkSize
    | some n =>
      if n = least then n * one
      else
        (if least = 0 && n != 1 then stateSize else 0) + least * one + stateSize +
          (n - least) * (one + forkSize)

/-- How many words are looked for without an automaton. -/
def manyWords : Nat := 3000

def hasAutomaton : Shape → Bool
  | .oneOf words => words.length < manyWords
  | _ => true

end Shape

namespace Expr

/-- Whether every match begins where the bytes do or, backward, ends where they end. -/
def isAnchored (d : Direction) : Expr → Bool
  | .look l => l = if d = .forward then .textStart else .textEnd
  | .group _ body => body.isAnchored d
  | .repeat body least _ _ => least != 0 && body.isAnchored d
  | .seq first second =>
    match d with
    | .forward => first.isAnchored d || second.isAnchored d && first.isEmptyOnly
    | .backward => second.isAnchored d || first.isAnchored d && second.isEmptyOnly
  | .alt first second => first.isAnchored d && second.isAnchored d
  | _ => false

/-- The bytes of what an automaton holds besides its expression: the search for the start of a
    match, and its end. -/
def frameSize (d : Direction) (anchored : Bool) : Nat :=
  (if anchored then stateSize else forkSize + 2 * stateSize + stepSize) + stateSize +
    (if d = .forward then 2 * stateSize else 0)

def sizeLimit : Nat := 10485760

def isTooBig (e : Expr) : Bool :=
  let shape := e.shape
  shape.hasAutomaton && [Direction.forward,.backward].any fun d =>
    sizeLimit < shape.size d + frameSize d (e.isAnchored d)

end Expr
end TabCompletion.Pattern
