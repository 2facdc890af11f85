import TabCompletion.Shell
import TabCompletion.Text.Lines

/-!
# The vocabulary of the fixture shell

The fixture shell completes a small query language. `candidatesAfter` gives the words that may
follow the words of a line, without regard to the case of ASCII letters.
-/
namespace TabCompletion.FixtureShell

def upperAscii (c : Char) : Char := if 'a' ≤ c ∧ c ≤ 'z' then Char.ofNat (c.toNat - 32) else c

/-- Whether two characters are the same but for the case of an ASCII letter. -/
def sameIgnoringCase (a b : Char) : Bool := lowerAscii a == lowerAscii b

def equalIgnoringCase (a b : List Char) : Bool := a.map lowerAscii == b.map lowerAscii

def wordList (words : List String) : List (List Char) := words.map String.toList

def commands : List (List Char) :=
  wordList ["ALTER","CREATE","DELETE","DESCRIBE","DROP","INSERT","SELECT","UPDATE","USE",
    "exit","quit"]

def valueHint (column : List Char) : List Char :=
  let kind := if column = "AGE".toList then "int" else "text"
  "<value for ".toList ++ column.map lowerAscii ++ (" (" ++ kind ++ ")>").toList

/-- The candidates for the word after the given words, in the order in which they are listed. -/
def candidatesAfter (words : List (List Char)) (keyspace : List Char) : List (List Char) :=
  let upper := words.map fun w => String.ofList (w.map upperAscii)
  let quoted := String.ofList ('"' :: keyspace.map upperAscii ++ ['"'])
  match upper with
  | [] => commands
  | ["DROP"] => wordList ["INDEX","KEYSPACE","TABLE"]
  | ["DROP","KEYSPACE"] => ["IF".toList,keyspace,"system".toList]
  | ["DROP","KEYSPACE",name] =>
    if name = quoted ∨ equalIgnoringCase name.toList keyspace then [[';']] else []
  | ["DESCRIBE"] => wordList ["KEYSPACE","KEYSPACES","TABLE","TABLES"]
  | ["INSERT"] => wordList ["INTO"]
  | ["INSERT","INTO"] => wordList ["empty_table","songs","users"]
  | ["USE"] => [keyspace,"system".toList]
  | ["SELECT"] => wordList ["*","DISTINCT","JSON"]
  | ["UPDATE"] => wordList ["songs","users"]
  | ["UPDATE",_] => wordList ["SET","USING"]
  | ["UPDATE","USERS","SET"] => wordList ["age","name"]
  | ["UPDATE","USERS","SET",column,"="] => [valueHint column.toList]
  | _ => []

/-- Whether a candidate is shown but never inserted. -/
def isHint (candidate : List Char) : Bool :=
  candidate.head? == some '<' || candidate == [';']

end TabCompletion.FixtureShell
