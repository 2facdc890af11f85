import TabCompletion.Error
import TabCompletion.Expectation
import TabCompletion.Pattern.Match
import TabCompletion.Text.Lines

/-!
# Prompts

A prompt is given by a template: a pattern in which the context placeholder stands for the name of
the context, taken literally, or for any name if the context is unknown. From the template come the
pattern that is looked for in a stream of output and the one without leading white space, which also
matches a prompt at the very start; `Prompt.redraw` matches the prompt with an input after it.
-/
namespace TabCompletion

structure Prompt where
  template : String
  context : Option String
  /-- The pattern for a stream of output. -/
  stream : Pattern
  /-- The pattern for the start of a line. -/
  lineStart : Pattern
  deriving Inhabited

namespace Prompt

/-- What stands in a pattern for a context with any name. -/
def anyContext : String := "\\S*"

def blankEscapes : List Char := ['n','r','t','s']

def repetitionSigns : List Char := ['*','+','?']

/-- A pattern without the blank characters at its start and then without one escape for white space
    with its signs of repetition, if such an escape comes next. -/
def dropBlank (cs : List Char) : List Char :=
  match Text.trimStartChars cs with
  | '\\' :: letter :: rest =>
    if blankEscapes.contains letter then rest.dropWhile repetitionSigns.contains
    else '\\' :: letter :: rest
  | rest => rest

/-- A pattern without the white space at its start, literal or escaped. -/
def trimBlank (cs : List Char) : List Char :=
  if (dropBlank cs).length < cs.length then trimBlank (dropBlank cs) else cs
termination_by cs.length

def trimLeading (pattern : String) : String := String.ofList (trimBlank pattern.toList)

def fillTemplate (template : String) (context : Option String) : String :=
  fillContext (some ((context.map Pattern.escape).getD anyContext)) template

def invalidTemplate (pattern : String) (fault : Pattern.Fault) : HarnessError :=
  .withDetails .config "invalid prompt template"
    [("pattern", .str pattern),("source", .str fault.message)]

def compilePart (pattern : String) : HarnessResult Pattern :=
  match Pattern.compile false pattern with
  | .ok p => .ok p
  | .error fault => .error (invalidTemplate pattern fault)

def ofTemplate (template : String) (context : Option String) : HarnessResult Prompt := do
  let source := fillTemplate template context
  let stream ← compilePart source
  let lineStart ← compilePart (trimLeading source)
  return ⟨template,context,stream,lineStart⟩

/-- The source of the pattern of the prompt with an input after it. -/
def redrawSource (p : Prompt) (input : String) : String :=
  "(?:" ++ p.lineStart.source ++ ")" ++ Pattern.escape input

def redraw (p : Prompt) (input : String) : HarnessResult Pattern :=
  let source := p.redrawSource input
  match Pattern.compile true source with
  | .ok r => .ok r
  | .error fault =>
    .error (.withDetails .config "prompt template does not form a valid redraw pattern"
      [("pattern", .str source),("source", .str fault.message)])

end Prompt
end TabCompletion
