import TabCompletion.Json.Printer
import TabCompletion.Yaml.Token

/-!
# Writing YAML text

A value is written on one line with brackets and braces. Keys have their sign, so that they may be
of any length, and texts are in double quotes; characters that a YAML text cannot hold, or that
would end a line, are written as escapes.
-/
namespace TabCompletion.Yaml

def paddedHex (size n : Nat) : List Char :=
  let digits := Nat.toDigits 16 n
  List.replicate (size - digits.length) '0' ++ digits

def quotedChar (c : Char) : List Char :=
  if c == '"' || c == '\\' then ['\\',c]
  else if c == '\t' || isBreak c || !isAccepted c then '\\' :: 'U' :: paddedHex 8 c.toNat
  else [c]

def quoted (s : String) : String :=
  String.ofList ('"' :: s.toList.flatMap quotedChar ++ ['"'])

mutual

def render : Json → String
  | .str s => quoted s
  | .arr items => "[" ++ renderItems items ++ "]"
  | .obj fields => "\x7b" ++ renderFields fields ++ "\x7d"
  | .null => "null"
  | .bool b => if b then "true" else "false"
  | .int n => toString n
  | .float x => Number.renderFloat x

def renderItems : List Json → String
  | [] => ""
  | [item] => render item
  | item :: rest => render item ++ ", " ++ renderItems rest

def renderFields : List (String × Json) → String
  | [] => ""
  | [(key, value)] => "? " ++ quoted key ++ " : " ++ render value
  | (key, value) :: rest =>
    "? " ++ quoted key ++ " : " ++ render value ++ ", " ++ renderFields rest

end

end TabCompletion.Yaml
