import TabCompletion.Script.Syntax

/-!
# Tokens of shell commands

The text of commands as words, operators and line ends, each with its line. Quotes and expansions
are recognised here: inside them nothing separates words. A text that breaks off inside of one ends
with a fault.
-/
namespace TabCompletion.Script

inductive Token where
  | word (w : Word)
  /-- A number directly before a redirection. -/
  | descriptor (n : Nat)
  | operator (text : String)
  | newline
  | fault (f : SyntaxFault)
  | finish
  deriving DecidableEq, Repr, Inhabited

structure PlacedToken where
  token : Token
  line : Nat
  deriving DecidableEq, Repr, Inhabited

namespace Token

inductive Quoting where
  | outside
  | single
  | double
  deriving DecidableEq

/-- The text up to the bracket that closes, and the text after it. Brackets in quotes and after a
    backslash do not count; `depth` brackets were opened inside. -/
def untilClosing (opening closing : Char) :
    Nat → Quoting → List Char → Option (List Char × List Char)
  | _, _, [] => none
  | depth, .single, c :: rest =>
    (untilClosing opening closing depth (if c = '\'' then .outside else .single) rest).map
      fun (inside, after) => (c :: inside, after)
  | depth, q, '\\' :: c :: rest =>
    (untilClosing opening closing depth q rest).map fun (inside, after) =>
      ('\\' :: c :: inside, after)
  | depth, .double, c :: rest =>
    (untilClosing opening closing depth (if c = '"' then .outside else .double) rest).map
      fun (inside, after) => (c :: inside, after)
  | depth, .outside, c :: rest =>
    let go (d : Nat) (q : Quoting) :=
      (untilClosing opening closing d q rest).map fun (inside, after) => (c :: inside, after)
    if c = '\'' then go depth .single
    else if c = '"' then go depth .double
    else if c = opening then go (depth + 1) .outside
    else if c = closing then
      match depth with
      | 0 => some ([], rest)
      | d + 1 => go d .outside
    else go depth .outside

/-- The commands between backquotes, where a backslash quotes a backquote, a backslash, a dollar and,
    inside of double quotes, a double quote; and the text after them. -/
def untilBackquote (quoted : Bool) : List Char → Option (List Char × List Char)
  | [] => none
  | '\\' :: c :: rest =>
    (untilBackquote quoted rest).map fun (inside, after) =>
      (if ['\x60','\\','$'].contains c || (quoted && c == '"') then c :: inside
        else '\\' :: c :: inside, after)
  | c :: rest =>
    if c = '\x60' then some ([], rest)
    else (untilBackquote quoted rest).map fun (inside, after) => (c :: inside, after)

def isNameStart (c : Char) : Bool := c.isAlpha || c = '_'

def isNameChar (c : Char) : Bool := c.isAlphanum || c = '_'

def specialParameters : List Char := ['?','$','#','@','*','!','-']

/-- The name of a parameter at the front of a text, and the text after it. -/
def nameOf (digits : Bool) : List Char → List Char × List Char
  | [] => ([], [])
  | c :: rest =>
    if isNameStart c then ((c :: rest).takeWhile isNameChar, (c :: rest).dropWhile isNameChar)
    else if c.isDigit then
      if digits then ((c :: rest).takeWhile Char.isDigit, (c :: rest).dropWhile Char.isDigit)
      else ([c], rest)
    else if specialParameters.contains c then ([c], rest)
    else ([], c :: rest)

def formOf? : List Char → Option ParameterForm
  | [] => some .value
  | ':' :: '-' :: text => some (.orElse true (String.ofList text))
  | ':' :: '=' :: text => some (.orAssign true (String.ofList text))
  | ':' :: '?' :: text => some (.orFail true (String.ofList text))
  | ':' :: '+' :: text => some (.ifSet true (String.ofList text))
  | '-' :: text => some (.orElse false (String.ofList text))
  | '=' :: text => some (.orAssign false (String.ofList text))
  | '?' :: text => some (.orFail false (String.ofList text))
  | '+' :: text => some (.ifSet false (String.ofList text))
  | '#' :: '#' :: text => some (.trimmed true true (String.ofList text))
  | '#' :: text => some (.trimmed true false (String.ofList text))
  | '%' :: '%' :: text => some (.trimmed false true (String.ofList text))
  | '%' :: text => some (.trimmed false false (String.ofList text))
  | _ => none

def braced (quoted : Bool) (inside : List Char) : Except SyntaxFault WordPart :=
  match inside with
  | '#' :: c :: rest =>
    let (name, after) := nameOf true (c :: rest)
    if !name.isEmpty && after.isEmpty then
      .ok (.parameter (String.ofList name) .length quoted)
    else .error .badSubstitution
  | _ =>
    let (name, after) := nameOf true inside
    if name.isEmpty then .error .badSubstitution
    else
      match formOf? after with
      | some form => .ok (.parameter (String.ofList name) form quoted)
      | none => .error .badSubstitution

/-- What follows a dollar: an expansion, or nothing if the dollar stands for itself. -/
def afterDollar (quoted : Bool) (cs : List Char) :
    Except SyntaxFault (Option (WordPart × List Char)) :=
  match cs with
  | '(' :: rest =>
    match rest with
    | '(' :: deep =>
      match untilClosing '(' ')' 0 .outside deep with
      | some (inside, ')' :: after) => .ok (some (.sum (String.ofList inside) quoted, after))
      | _ => .error .unclosedSum
    | _ =>
      match untilClosing '(' ')' 0 .outside rest with
      | some (inside, after) => .ok (some (.output (String.ofList inside) quoted, after))
      | none => .error (.unexpected "end of file" (some "\")\""))
  | '\x7b' :: rest =>
    match untilClosing '\x7b' '\x7d' 0 .outside rest with
    | some (inside, after) => (braced quoted inside).map fun part => some (part, after)
    | none => .error .unclosedBrace
  | _ =>
    let (name, after) := nameOf false cs
    if name.isEmpty then .ok none
    else .ok (some (.parameter (String.ofList name) .value quoted, after))

/-! ## Words -/

/-- A word with one more part; text joins text that is quoted in the same way. -/
def extend (parts : Word) (part : WordPart) : Word :=
  match parts.getLast?, part with
  | some (.text a q), .text b q' => if q = q' then parts.dropLast ++ [.text (a ++ b) q] else parts ++ [part]
  | _, _ => parts ++ [part]

def endsWord (c : Char) : Bool := " \t\n;&|<>()".toList.contains c

/-- What a double quote does in a text that is quoted. -/
inductive InnerQuote where
  /-- It closes the text, which cannot end without it. -/
  | closing
  | dropped
  | literal
  deriving DecidableEq

/-- The parts of a text that is quoted, up to its end, and the text after it. -/
def quotedParts (quote : InnerQuote) : Nat → Word → List Char → Except SyntaxFault (Word × List Char)
  | 0, _, _ => .error .unterminatedQuote
  | _, parts, [] => if quote = .closing then .error .unterminatedQuote else .ok (parts, [])
  | fuel + 1, parts, c :: rest =>
    let text (c : Char) (rest : List Char) :=
      quotedParts quote fuel (extend parts (.text (String.singleton c) true)) rest
    match c, rest with
    | '"', _ =>
      match quote with
      | .closing => .ok (parts, rest)
      | .dropped => quotedParts quote fuel parts rest
      | .literal => text '"' rest
    | '\\', '\n' :: after => quotedParts quote fuel parts after
    | '\\', e :: after =>
      if e = '$' ∨ (e = '"' ∧ quote ≠ .literal) ∨ e = '\\' ∨ e = '\x60' then text e after else text '\\' rest
    | '$', _ =>
      match afterDollar true rest with
      | .error f => .error f
      | .ok none => text '$' rest
      | .ok (some (part, after)) => quotedParts quote fuel (extend parts part) after
    | c, _ =>
      if c = '\x60' then
        match untilBackquote true rest with
        | none => .error .unclosedBackquote
        | some (inside, after) =>
          quotedParts quote fuel (extend parts (.output (String.ofList inside) true)) after
      else text c rest

/-- The parts of a word up to its end, and the text after it. Unless words are `separated`, the word
    goes to the end of the text. -/
def wordParts (separated : Bool) : Nat → Word → List Char → Except SyntaxFault (Word × List Char)
  | 0, parts, rest => .ok (parts, rest)
  | _, parts, [] => .ok (parts, [])
  | fuel + 1, parts, c :: rest =>
    let text (s : List Char) (quoted : Bool) (rest : List Char) :=
      wordParts separated fuel (extend parts (.text (String.ofList s) quoted)) rest
    match c, rest with
    | '\\', '\n' :: after => wordParts separated fuel parts after
    | '\\', e :: after => text [e] true after
    | '\'', _ =>
      let inside := rest.takeWhile (· != '\'')
      match rest.dropWhile (· != '\'') with
      | _ :: after => text inside true after
      | [] => .error .unterminatedQuote
    | '"', _ =>
      match quotedParts .closing (rest.length + 1) [] rest with
      | .error f => .error f
      | .ok (inside, after) =>
        let inside := if inside.isEmpty then [.text "" true] else inside
        wordParts separated fuel (inside.foldl extend parts) after
    | '$', _ =>
      match afterDollar false rest with
      | .error f => .error f
      | .ok none => text ['$'] false rest
      | .ok (some (part, after)) => wordParts separated fuel (extend parts part) after
    | c, _ =>
      if c = '\x60' then
        match untilBackquote false rest with
        | none => .error .unclosedBackquote
        | some (inside, after) =>
          wordParts separated fuel (extend parts (.output (String.ofList inside) false)) after
      else if separated && endsWord c then .ok (parts, c :: rest)
      else text [c] false rest

def innerWord (quoted : Bool) (text : String) : Except SyntaxFault Word :=
  (if quoted then quotedParts .dropped (text.length + 1) [] text.toList
    else wordParts false (text.length + 1) [] text.toList).map (·.1)

/-- The lines up to a delimiter, without tabs at their beginnings if they are dropped, and the text
    after the delimiter. -/
def documentLines (delimiter : List Char) (dropTabs : Bool) :
    List (List Char) → List (List Char) × List (List Char)
  | [] => ([], [])
  | line :: rest =>
    let line := if dropTabs then line.dropWhile (· == '\t') else line
    if line = delimiter then ([], rest)
    else
      let (inside, after) := documentLines delimiter dropTabs rest
      (line :: inside, after)

/-- The word of a document after its operator: its delimiter comes first, and its lines begin in the
    next line. Also gives the text without the document. -/
def document (dropTabs : Bool) (cs : List Char) : Except SyntaxFault (Word × List Char) := do
  let cs := cs.dropWhile fun c => c == ' ' || c == '\t'
  let (name, after) ← wordParts true (cs.length + 1) [] cs
  let delimiter := name.flatMap fun
    | .text s _ => s.toList
    | _ => []
  let plain := (plainText? name).isSome
  let line := after.takeWhile (· != '\n')
  let (inside, rest) :=
    documentLines delimiter dropTabs ((after.drop (line.length + 1)).splitOn '\n')
  let text := inside.flatMap (· ++ ['\n'])
  let more := ['\n'].intercalate rest
  let word ← if plain then (·.1) <$> quotedParts .literal (text.length + 1) [] text
    else pure [WordPart.text (String.ofList text) true]
  return (word, line ++ '\n' :: more)

/-- The operators, longer ones before those they begin with. -/
def operators : List String :=
  ["&&","||",";;",">>",">&","<&",">|",";","&","|","(",")","<",">"]

def operatorAt? (cs : List Char) : Option (String × List Char) :=
  operators.findSome? fun op =>
    if op.toList.isPrefixOf cs then some (op, cs.drop op.length) else none

/-- The number that a word is if it stands directly before a redirection. -/
def descriptor? (w : Word) (after : List Char) : Option Nat :=
  match plainText? w, after with
  | some s, c :: _ => if c = '<' ∨ c = '>' then s.toNat? else none
  | _, _ => none

def scan : Nat → Nat → List Char → List PlacedToken
  | 0, line, _ => [⟨.finish,line⟩]
  | _, line, [] => [⟨.finish,line⟩]
  | fuel + 1, line, c :: rest =>
    if c = '\n' then ⟨.newline,line⟩ :: scan fuel (line + 1) rest
    else if c = ' ' ∨ c = '\t' then scan fuel line rest
    else if c = '\\' ∧ rest.head? = some '\n' then scan fuel (line + 1) (rest.drop 1)
    else if c = '#' then scan fuel line (rest.dropWhile (· != '\n'))
    else if c = '<' ∧ rest.head? = some '<' then
      let dropTabs := (rest.drop 1).head? == some '-'
      match document dropTabs (rest.drop (if dropTabs then 2 else 1)) with
      | .error f => [⟨.fault f,line⟩]
      | .ok (w, after) => ⟨.operator "<<",line⟩ :: ⟨.word w,line⟩ :: scan fuel line after
    else
      match operatorAt? (c :: rest) with
      | some (op, after) => ⟨.operator op,line⟩ :: scan fuel line after
      | none =>
        match wordParts true (rest.length + 2) [] (c :: rest) with
        | .error f =>
          let last := line + rest.count '\n'
          [⟨.fault f,last⟩]
        | .ok (w, after) =>
          let token := match descriptor? w after with
            | some n => .descriptor n
            | none => .word w
          let lines := ((c :: rest).take (rest.length + 1 - after.length)).count '\n'
          ⟨token,line⟩ :: scan fuel (line + lines) after

def ofText (text : String) : List PlacedToken := scan (text.length + 1) 1 text.toList

end Token
end TabCompletion.Script
