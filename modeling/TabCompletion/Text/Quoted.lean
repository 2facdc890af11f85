import TabCompletion.Unicode.Property

/-!
# Quoted text

Messages show text in double quotes: quotes and backslashes are escaped, line breaks, tabs and NUL
have short escapes, and a character that would not show as itself is written `\u` with its code
point in braces. `quoteList` and `quoteSet` write several texts in brackets or braces.
-/
namespace TabCompletion.Text

def hexDigits (n : Nat) : List Char := Nat.toDigits 16 n

def quoteChar (c : Char) : List Char :=
  match c with
  | '"' => ['\\','"']
  | '\\' => ['\\','\\']
  | '\n' => ['\\','n']
  | '\r' => ['\\','r']
  | '\t' => ['\\','t']
  | '\x00' => ['\\','0']
  | c =>
    let n := c.toNat
    if 0x20 ≤ n ∧ n < 0x7F then [c]
    else if Unicode.graphemeExtend.contains n || Unicode.hidden.contains n then
      ['\\','u','\x7b'] ++ hexDigits n ++ ['\x7d']
    else [c]

def quote (s : String) : String :=
  String.ofList ('"' :: s.toList.flatMap quoteChar ++ ['"'])

def quoteList (texts : List String) : String := "[" ++ ", ".intercalate (texts.map quote) ++ "]"

def quoteSet (texts : List String) : String :=
  "\x7b" ++ ", ".intercalate (texts.map quote) ++ "\x7d"

end TabCompletion.Text
