import TabCompletion.Json.Basic
import TabCompletion.Number.Shortest

/-!
# JSON text

The text of a value without blanks: fields in their order, text in double quotes with the short
escapes where there are any and `\u00` escapes for the other control characters.
-/
namespace TabCompletion.Json

def escapeChar (c : Char) : List Char :=
  match c with
  | '"' => ['\\','"']
  | '\\' => ['\\','\\']
  | '\n' => ['\\','n']
  | '\r' => ['\\','r']
  | '\t' => ['\\','t']
  | '\x08' => ['\\','b']
  | '\x0c' => ['\\','f']
  | c =>
    if c.toNat < 0x20 then
      let digits := Nat.toDigits 16 c.toNat
      ['\\','u'] ++ List.replicate (4 - digits.length) '0' ++ digits
    else [c]

def escape (s : String) : String :=
  String.ofList ('"' :: s.toList.flatMap escapeChar ++ ['"'])

mutual

def render : Json → String
  | .null => "null"
  | .bool true => "true"
  | .bool false => "false"
  | .int n => toString n
  | .float x => Number.renderFloat x
  | .str s => escape s
  | .arr items => "[" ++ ",".intercalate (renderItems items) ++ "]"
  | .obj fields => "\x7b" ++ ",".intercalate (renderFields fields) ++ "\x7d"

def renderItems : List Json → List String
  | [] => []
  | item :: rest => render item :: renderItems rest

def renderFields : List (String × Json) → List String
  | [] => []
  | (key, value) :: rest => (escape key ++ ":" ++ render value) :: renderFields rest

end

end TabCompletion.Json
