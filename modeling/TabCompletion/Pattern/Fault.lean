/-!
# Faults of patterns

Why a text is not a pattern.
-/
namespace TabCompletion.Pattern

inductive Fault where
  | nothingToRepeat
  | unclosedRepetition
  | invalidRepetition
  | unclosedGroup
  | unopenedGroup
  | lookAround
  | invalidGroupName
  | duplicateGroupName
  | invalidFlags
  | unfinishedEscape
  | unknownEscape
  | backReference
  | invalidCodePoint
  | invalidWordBoundary
  | unclosedClass
  | invalidClassItem
  | invalidClassRange
  | unknownProperty
  | notUnicode
  | notUtf8
  | tooDeep
  | tooBig
  deriving DecidableEq, Repr, Inhabited

def Fault.message : Fault → String
  | nothingToRepeat => "there is nothing to repeat"
  | unclosedRepetition => "a counted repetition has no end"
  | invalidRepetition => "a counted repetition has no valid range"
  | unclosedGroup => "a group has no end"
  | unopenedGroup => "a group has no start"
  | lookAround => "look-around is not supported"
  | invalidGroupName => "the name of a group is not valid"
  | duplicateGroupName => "two groups have one name"
  | invalidFlags => "the flags are not valid"
  | unfinishedEscape => "an escape has no end"
  | unknownEscape => "an escape has no meaning"
  | backReference => "back references are not supported"
  | invalidCodePoint => "an escape names no character"
  | invalidWordBoundary => "a word boundary has no meaning"
  | unclosedClass => "a class has no end"
  | invalidClassItem => "a class holds what is no character"
  | invalidClassRange => "a range in a class is empty"
  | unknownProperty => "a Unicode property has no meaning"
  | notUnicode => "a class needs Unicode"
  | notUtf8 => "the pattern can match text that is not UTF-8"
  | tooDeep => "the pattern is nested too deep"
  | tooBig => "the compiled pattern is too big"

end TabCompletion.Pattern
