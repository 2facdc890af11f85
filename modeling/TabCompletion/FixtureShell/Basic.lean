import TabCompletion.FixtureShell.Completion
import TabCompletion.Text.Lines

/-!
# The fixture shell

A line editor that answers every key with bytes for the terminal. One TAB inserts a completion or
rings the bell; a second one then lists the candidates and prints the prompt and the line again.
Ctrl-C starts a new line, `exit`, `quit` and Ctrl-D on an empty line end the shell, and `USE` changes
the keyspace, whose name is a candidate and part of the prompt.
-/
namespace TabCompletion

/-- A fixture shell: its keyspace, the line typed so far, and the candidates that the next TAB lists
    if there are any. -/
structure FixtureShell where
  keyspace : List Char
  line : List Char := []
  withheld : Option (List (List Char)) := none
  deriving DecidableEq, Repr, Inhabited

namespace FixtureShell

inductive Action where
  | goOn
  | exit
  deriving DecidableEq, Repr, Inhabited

def prompt (s : FixtureShell) : List Char := "fake:".toList ++ s.keyspace ++ "> ".toList

def newPrompt (s : FixtureShell) : List Char := '\r' :: '\n' :: s.prompt

def pressTab (s : FixtureShell) : Bytes × FixtureShell :=
  match s.withheld with
  | some candidates =>
    (Utf8.encodeChars ('\r' :: '\n' :: "  ".toList.intercalate candidates ++ s.newPrompt ++ s.line),
      { s with withheld := none })
  | none =>
    match complete s.line s.keyspace with
    | .insert output line => (output, { s with line })
    | .ambiguous candidates => ([0x07], { s with withheld := some candidates })
    | .nothing => ([0x07], s)

def dropEnd (drop : Char → Bool) (cs : List Char) : List Char :=
  (cs.reverse.dropWhile drop).reverse

def command (line : List Char) : List Char := dropEnd (· == ';') (Text.trimChars line)

def unquote (name : List Char) : List Char := dropEnd (· == '"') (name.dropWhile (· == '"'))

def keyspaceAfter (command keyspace : List Char) : List Char :=
  match Text.wordsChars command with
  | [verb,name] => if equalIgnoringCase verb "USE".toList then unquote name else keyspace
  | _ => keyspace

def pressEnter (s : FixtureShell) : Bytes × Action × FixtureShell :=
  let cmd := command s.line
  if equalIgnoringCase cmd "exit".toList || equalIgnoringCase cmd "quit".toList then
    ([0x0D,0x0A], .exit, { s with line := [] })
  else
    let after := { s with line := [], keyspace := keyspaceAfter cmd s.keyspace }
    (Utf8.encodeChars after.newPrompt, .goOn, after)

/-- Any key: the output, what happens next, and the shell after it. Every key but TAB drops the
    withheld candidates; keys that are neither printable ASCII nor commands do nothing else. -/
def press (s : FixtureShell) (key : UInt8) : Bytes × Action × FixtureShell :=
  if key = 0x09 then
    let (output, after) := s.pressTab
    (output, .goOn, after)
  else
    let s := { s with withheld := none }
    if key = 0x03 then
      (Utf8.encodeChars ('^' :: 'C' :: s.newPrompt), .goOn, { s with line := [] })
    else if key = 0x04 ∧ s.line = [] then ([0x0D,0x0A], .exit, s)
    else if key = 0x0D ∨ key = 0x0A then s.pressEnter
    else if key = 0x7F ∨ key = 0x08 then
      if s.line = [] then ([0x07], .goOn, s)
      else ([0x08,0x20,0x08], .goOn, { s with line := s.line.dropLast })
    else if 0x20 ≤ key ∧ key < 0x7F then
      ([key], .goOn, { s with line := s.line ++ [Char.ofNat key.toNat] })
    else ([], .goOn, s)

/-- Keys one after the other, until the shell exits: the output, and the shell after them. -/
def pressAll (s : FixtureShell) : Bytes → Bytes × Action × FixtureShell
  | [] => ([], .goOn, s)
  | key :: rest =>
    match s.press key with
    | (output, .exit, after) => (output, .exit, after)
    | (output, .goOn, after) =>
      let (more, action, last) := after.pressAll rest
      (output ++ more, action, last)

def defaultKeyspace : List Char := "tabprobe_ks".toList

/-- The keyspace given by the arguments: the first `--keyspace` counts. -/
def keyspaceOfArgs : List String → Option String
  | [] => none
  | arg :: rest =>
    if arg = "--keyspace" then rest.head?
    else
      match Text.dropStart? "--keyspace=".toList arg.toList with
      | some name => some (String.ofList name)
      | none => keyspaceOfArgs rest

def ofArgs (args : List String) : FixtureShell :=
  ⟨((keyspaceOfArgs args).map String.toList).getD defaultKeyspace,[],none⟩

/-- All output of the shell on the keys, its first prompt included. -/
def transcript (s : FixtureShell) (keys : Bytes) : Bytes :=
  Utf8.encodeChars s.prompt ++ (s.pressAll keys).1

end FixtureShell
end TabCompletion
