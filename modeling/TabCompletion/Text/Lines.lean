/-!
# Lines, words and occurrences

Text is cut at the ends of its lines (`lines`) and at blank characters (`words`, `trim`), and the
occurrences of a piece in it are found and replaced. All this is done on lists of characters, for
which the names end in `Chars`, or on lists of any elements.
-/
namespace TabCompletion.Text

/-- The characters with the property `White_Space`. -/
def isBlank (c : Char) : Bool :=
  let n := c.toNat
  (9 ≤ n && n ≤ 13) || n == 0x20 || n == 0x85 || n == 0xA0 || n == 0x1680 ||
    (0x2000 ≤ n && n ≤ 0x200A) || n == 0x2028 || n == 0x2029 || n == 0x202F || n == 0x205F ||
    n == 0x3000

def trimStartChars (cs : List Char) : List Char := cs.dropWhile isBlank

def trimEndChars (cs : List Char) : List Char := (cs.reverse.dropWhile isBlank).reverse

def trimChars (cs : List Char) : List Char := trimEndChars (trimStartChars cs)

/-- The maximal pieces without blank characters, in order. -/
def wordsChars : List Char → List (List Char)
  | [] => []
  | c :: rest =>
    if isBlank c then wordsChars rest
    else
      match rest with
      | [] => [[c]]
      | d :: more =>
        if isBlank d then [c] :: wordsChars (d :: more)
        else
          match wordsChars (d :: more) with
          | [] => [[c]]
          | w :: ws => (c :: w) :: ws

def trim (s : String) : String := String.ofList (trimChars s.toList)

def words (s : String) : List String := (wordsChars s.toList).map String.ofList

def isBlankText (s : String) : Bool := s.toList.all isBlank

theorem trimStartChars_eq_nil {cs : List Char} (h : cs.all isBlank) : trimStartChars cs = [] := by
  induction cs with
  | nil => rfl
  | cons c cs ih =>
    simp only [List.all_cons,Bool.and_eq_true] at h
    simp [trimStartChars,List.dropWhile,h.1,← ih h.2]

/-! ## Lines

A terminal ends a line with CR LF, a lone CR or a lone LF. -/

/-- The pieces between line terminators, without an empty one after a final terminator. -/
def linesChars : List Char → List (List Char)
  | [] => []
  | '\r' :: '\n' :: rest => [] :: linesChars rest
  | '\r' :: rest => [] :: linesChars rest
  | '\n' :: rest => [] :: linesChars rest
  | c :: rest =>
    match linesChars rest with
    | [] => [[c]]
    | line :: more => (c :: line) :: more

def lines (s : String) : List String := (linesChars s.toList).map String.ofList

/-! ## Occurrences -/

section

variable {α : Type} [BEq α]

/-- `substitute` after `skip` more elements of an occurrence that was already replaced. -/
def substituteFrom (piece by' : List α) (skip : Nat) : List α → List α
  | [] => []
  | a :: rest =>
    match skip with
    | k + 1 => substituteFrom piece by' k rest
    | 0 =>
      if piece.isPrefixOf (a :: rest) then by' ++ substituteFrom piece by' (piece.length - 1) rest
      else a :: substituteFrom piece by' 0 rest

/-- Every occurrence of `piece`, from the left and without overlap, replaced. A piece of length
    zero occurs nowhere. -/
def substitute (piece by' whole : List α) : List α :=
  if piece.isEmpty then whole else substituteFrom piece by' 0 whole

/-- Every occurrence of `piece`, from the left and without overlap, left out. -/
def removeAll (piece whole : List α) : List α := substitute piece [] whole

def occursIn (piece : List α) : List α → Bool
  | [] => piece.isEmpty
  | a :: rest => piece.isPrefixOf (a :: rest) || occursIn piece rest

/-- What follows `start`, if the list begins with it. -/
def dropStart? (start whole : List α) : Option (List α) :=
  match start, whole with
  | [], rest => some rest
  | _ :: _, [] => none
  | a :: start, b :: rest => if a == b then dropStart? start rest else none

end

/-- `substitute` on strings, except that an empty piece stays where it is. -/
def replace (piece by' whole : String) : String :=
  String.ofList (substitute piece.toList by'.toList whole.toList)

end TabCompletion.Text
