/-!
# Shell commands

The commands of the POSIX shell as data: words with the expansions in them, redirections, and
commands put together from other commands.
-/
namespace TabCompletion.Script

inductive ParameterForm where
  | value
  | length
  /-- Another text if there is no value; if so told, also for an empty one. -/
  | orElse (whenEmpty : Bool) (text : String)
  /-- As `orElse`, and the parameter is set to the text. -/
  | orAssign (whenEmpty : Bool) (text : String)
  /-- An error with a text if there is no value. -/
  | orFail (whenEmpty : Bool) (text : String)
  /-- Another text if there is a value. -/
  | ifSet (whenEmpty : Bool) (text : String)
  /-- The value without a part at its front or its end that matches a pattern. -/
  | trimmed (front longest : Bool) (pattern : String)
  deriving DecidableEq, Repr, Inhabited

/-- A part of a word. The value of an unquoted part is split and may be a pattern. -/
inductive WordPart where
  | text (s : String) (quoted : Bool)
  | parameter (name : String) (form : ParameterForm) (quoted : Bool)
  | output (script : String) (quoted : Bool)
  | sum (expression : String) (quoted : Bool)
  deriving DecidableEq, Repr, Inhabited

abbrev Word := List WordPart

def plainText? : Word → Option String
  | [.text s false] => some s
  | _ => none

inductive RedirectionKind where
  | read
  | write
  | append
  /-- Takes the target of another descriptor. -/
  | duplicate
  /-- Reads the text that follows in the script. -/
  | document
  deriving DecidableEq, Repr, Inhabited

structure Redirection where
  descriptor : Nat
  kind : RedirectionKind
  target : Word
  deriving DecidableEq, Repr, Inhabited

structure SimpleCommand where
  line : Nat
  settings : List (String × Word)
  words : List Word
  deriving DecidableEq, Repr, Inhabited

inductive Command where
  | simple (c : SimpleCommand)
  | redirected (c : Command) (line : Nat) (redirections : List Redirection)
  | pipeline (c : Command) (rest : List Command)
  | negated (c : Command)
  | both (first second : Command)
  | either (first second : Command)
  | sequence (cs : List Command)
  | background (c : Command)
  | subshell (c : Command)
  | branch (test yes no : Command)
  /-- Runs the body as long as the test succeeds, or as long as it fails. -/
  | loop (whileFailing : Bool) (test body : Command)
  | each (name : String) (words : Option (List Word)) (body : Command)
  | choose (subject : Word) (branches : List (List Word × Command))
  | define (name : String) (body : Command)
  deriving Inhabited

inductive SyntaxFault where
  | unterminatedQuote
  | unclosedBackquote
  | unclosedBrace
  | unclosedSum
  | badFunctionName
  | badLoopVariable
  | badSubstitution
  /-- Something stands where something else, or anything else, must stand. -/
  | unexpected (found : String) (expected : Option String)
  deriving DecidableEq, Repr, Inhabited

namespace SyntaxFault

def message : SyntaxFault → String
  | unterminatedQuote => "Syntax error: Unterminated quoted string"
  | unclosedBackquote => "Syntax error: EOF in backquote substitution"
  | unclosedBrace => "Syntax error: Missing '\x7d'"
  | unclosedSum => "Syntax error: Missing '))'"
  | badFunctionName => "Syntax error: Bad function name"
  | badLoopVariable => "Syntax error: Bad for loop variable"
  | badSubstitution => "Bad substitution"
  | unexpected found none => "Syntax error: " ++ found ++ " unexpected"
  | unexpected found (some expected) =>
    "Syntax error: " ++ found ++ " unexpected (expecting " ++ expected ++ ")"

end SyntaxFault
end TabCompletion.Script
