/-!
# Filename patterns

Patterns with `*`, `?` and bracketed sets, in which quoted characters stand for themselves.
-/
namespace TabCompletion.Script

/-- A character, and whether it is quoted. -/
abbrev Marked := Char × Bool

namespace Glob

def isPattern (p : List Marked) : Bool := p.any fun (c, quoted) => !quoted && "*?[".toList.contains c

/-- Whether a character is in a set, by the members of the set. -/
def inSet (c : Char) : List Marked → Bool
  | (low, _) :: ('-', false) :: (high, _) :: rest => (low ≤ c && c ≤ high) || inSet c rest
  | (m, _) :: rest => m == c || inSet c rest
  | [] => false

/-- The members of a set and what follows it, after the opening bracket. A closing bracket that comes
    first is a member. -/
def setOf? (p : List Marked) : Option (Bool × List Marked × List Marked) :=
  let (negated, p) := match p with
    | ('!', false) :: rest => (true, rest)
    | rest => (false, rest)
  let (first, p) := match p with
    | (']', false) :: rest => ([(']', false)], rest)
    | rest => ([], rest)
  let members := p.takeWhile (· != (']', false))
  match p.drop members.length with
  | _ :: after => some (negated, first ++ members, after)
  | [] => none

def matchesWithin : Nat → List Marked → List Char → Bool
  | 0, _, _ => false
  | _, [], cs => cs.isEmpty
  | fuel + 1, (c, quoted) :: rest, cs =>
    let literal := match cs with
      | d :: after => c == d && matchesWithin fuel rest after
      | [] => false
    if quoted then literal
    else if c = '*' then
      matchesWithin fuel rest cs ||
        (match cs with
        | _ :: after => matchesWithin fuel ((c, quoted) :: rest) after
        | [] => false)
    else if c = '?' then
      match cs with
      | _ :: after => matchesWithin fuel rest after
      | [] => false
    else if c = '[' then
      match setOf? rest, cs with
      | some (negated, members, p), d :: after =>
        (inSet d members != negated) && matchesWithin fuel p after
      | some _, [] => false
      | none, _ => literal
    else literal

def isMatch (p : List Marked) (text : String) : Bool :=
  matchesWithin (p.length + text.length + 1) p text.toList

end Glob
end TabCompletion.Script
