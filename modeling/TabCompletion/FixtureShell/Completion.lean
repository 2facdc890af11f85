import TabCompletion.FixtureShell.Vocabulary
import TabCompletion.Text.Utf8

/-!
# Completion in the fixture shell

`complete` says what TAB does on a line: it inserts what all candidates agree on, if that is more
than was typed; otherwise there are candidates to choose from, or none. The case of what was typed
gives way to that of the candidate, so the word is typed over where they differ.
-/
namespace TabCompletion.FixtureShell

def backspace : UInt8 := 0x08

inductive Completion where
  /-- Prints the output and makes the line the given one. -/
  | insert (output : Bytes) (line : List Char)
  | ambiguous (candidates : List (List Char))
  | nothing
  deriving DecidableEq, Repr, Inhabited

/-- The line up to its last space, and the characters after it. -/
def splitLine (line : List Char) : List Char × List Char :=
  let last := (line.reverse.takeWhile (· != ' ')).reverse
  (line.take (line.length - last.length), last)

/-- Whether a candidate begins with the characters, but for the case of ASCII letters. -/
def beginsIgnoringCase : List Char → List Char → Bool
  | _, [] => true
  | [], _ :: _ => false
  | a :: candidate, b :: typed => sameIgnoringCase a b && beginsIgnoringCase candidate typed

/-- The characters of the first word that the second has too, but for the case of ASCII letters. -/
def sharedStart : List Char → List Char → List Char
  | a :: first, b :: second => if sameIgnoringCase a b then a :: sharedStart first second else []
  | _, _ => []

/-- The longest start that all candidates share, as the first one writes it. -/
def commonStart : List (List Char) → List Char
  | [] => []
  | first :: others => others.foldl sharedStart first

/-- The word that was typed replaced by another: what is missing of it is printed, or, if it begins
    otherwise than was typed, all of it over the typed word. -/
def replaceWord (head typed word : List Char) : Completion :=
  let output :=
    if typed.isPrefixOf word then Utf8.encodeChars (word.drop typed.length)
    else List.replicate (Utf8.encodeChars typed).length backspace ++ Utf8.encodeChars word
  .insert output (head ++ word)

def complete (line keyspace : List Char) : Completion :=
  let (head, typed) := splitLine line
  let candidates :=
    (candidatesAfter (Text.wordsChars head) keyspace).filter (beginsIgnoringCase · typed)
  let several :=
    if candidates.any isHint then .ambiguous candidates
    else
      let common := commonStart candidates
      if (Utf8.encodeChars typed).length < (Utf8.encodeChars common).length then
        replaceWord head typed common
      else .ambiguous candidates
  match candidates with
  | [] => .nothing
  | [only] => if isHint only then several else replaceWord head typed (only ++ [' '])
  | _ => several

end TabCompletion.FixtureShell
