import RecordGen.Unicode.Alphanumeric
import RecordGen.Unicode.DecimalDigit
import RecordGen.Unicode.Upper

/-!
# Pascal case

A text as one name: its words joined, each with a capital. A word is a run of digits, or a letter
with the letters behind it up to the next ASCII capital; what is no letter or digit only separates.
-/

namespace RecordGen.Pascal

/-- The code point is alphanumeric and no decimal digit. -/
def isLetter (c : CodePoint) : Bool := Unicode.isAlphanumeric c && !Unicode.isDecimalDigit c

/-- The code point goes on a word that starts with a letter. -/
def isTail (c : CodePoint) : Bool := isLetter c && !c.isAsciiUpper

/-- Puts a code point in front of the first word if the text behind it goes on with that word, and
starts a word with it otherwise. -/
def attach (goesOn : CodePoint → Bool) (c : CodePoint) (rest : Text) (words : List Text) :
    List Text :=
  match rest, words with
  | next :: _, word :: others =>
    if goesOn next then (c :: word) :: others else [c] :: word :: others
  | _, words => [c] :: words

def words : Text → List Text
  | [] => []
  | c :: rest =>
    if Unicode.isDecimalDigit c then attach Unicode.isDecimalDigit c rest (words rest)
    else if isLetter c then attach isTail c rest (words rest)
    else words rest

/-- The word with the upper-case form of its first code point. -/
def capitalized : Text → Text
  | [] => []
  | c :: rest => Unicode.upper c ++ rest

/-- The text in Pascal case; empty if it has no letter and no digit. -/
def ofText (t : Text) : Text := (words t).flatMap capitalized

/-! ## The rule for one code point -/

/-- A code point starts a word that begins with a letter when nothing, a separator or a digit
precedes it. -/
def startsWord (previous : Option CodePoint) : Bool :=
  match previous with
  | none => true
  | some p => !isLetter p

/-- What one code point contributes, given the one before it. -/
def contribution (previous : Option CodePoint) (c : CodePoint) : Text :=
  if Unicode.isAlphanumeric c then
    if !Unicode.isDecimalDigit c && startsWord previous then Unicode.upper c else [c]
  else []

/-- The contributions of all code points of a text, in one pass. -/
def pass (previous : Option CodePoint) : Text → Text
  | [] => []
  | c :: rest => contribution previous c ++ pass (some c) rest

end RecordGen.Pascal
