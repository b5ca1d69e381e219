/-!
# Text

A text is a list of Unicode code points, lone surrogates included, because a schema document may
spell them and every later stage has to carry them. This module holds the type, literals, numerals
and the few cuts that the rest of the library makes in a text.
-/

namespace RecordGen

/-- A Unicode code point; surrogates count. -/
abbrev CodePoint := Fin 0x110000

/-- A sequence of code points. -/
abbrev Text := List CodePoint

namespace CodePoint

def ofChar (c : Char) : CodePoint :=
  ⟨c.toNat, by
    have valid := c.valid
    have value : c.toNat = c.val.toNat := rfl
    simp only [UInt32.isValidChar, Nat.isValidChar] at valid
    omega⟩

/-- The code point of a number; a number past the last code point gives U+0000. -/
def ofNat (n : Nat) : CodePoint :=
  if small : n < 0x110000 then ⟨n, small⟩ else 0

def backspace : CodePoint := ofNat 0x08

def tab : CodePoint := ofNat 0x09

def lineFeed : CodePoint := ofNat 0x0A

def formFeed : CodePoint := ofNat 0x0C

def carriageReturn : CodePoint := ofNat 0x0D

def space : CodePoint := ofNat 0x20

def byteOrderMark : CodePoint := ofNat 0xFEFF

/-- The code point is the first half of a surrogate pair. -/
def isHighSurrogate (c : CodePoint) : Bool := 0xD800 ≤ c.val && c.val < 0xDC00

/-- The code point is the second half of a surrogate pair. -/
def isLowSurrogate (c : CodePoint) : Bool := 0xDC00 ≤ c.val && c.val < 0xE000

/-- The code point is no Unicode scalar value. -/
def isSurrogate (c : CodePoint) : Bool := 0xD800 ≤ c.val && c.val < 0xE000

/-- The code point that two halves of a surrogate pair stand for. -/
def ofSurrogates (high low : CodePoint) : CodePoint :=
  ofNat (0x10000 + (high.val - 0xD800) * 0x400 + (low.val - 0xDC00))

/-- `0` to `9`. -/
def isAsciiDigit (c : CodePoint) : Bool := 0x30 ≤ c.val && c.val ≤ 0x39

/-- `A` to `Z`. -/
def isAsciiUpper (c : CodePoint) : Bool := 0x41 ≤ c.val && c.val ≤ 0x5A

/-- `A` to `Z` or `a` to `z`. -/
def isAsciiLetter (c : CodePoint) : Bool :=
  isAsciiUpper c || (0x61 ≤ c.val && c.val ≤ 0x7A)

/-- U+0000 to U+007F. -/
def isAscii (c : CodePoint) : Bool := c.val < 0x80

/-- The value of a hexadecimal digit in either case. -/
def hexValue? (c : CodePoint) : Option Nat :=
  if isAsciiDigit c then some (c.val - 0x30)
  else if 0x41 ≤ c.val && c.val ≤ 0x46 then some (c.val - 0x41 + 10)
  else if 0x61 ≤ c.val && c.val ≤ 0x66 then some (c.val - 0x61 + 10)
  else none

/-- The upper-case letter of an ASCII letter, and every other code point itself. -/
def asciiUpper (c : CodePoint) : CodePoint :=
  if 0x61 ≤ c.val && c.val ≤ 0x7A then ofNat (c.val - 0x20) else c

/-- The lower-case letter of an ASCII letter, and every other code point itself. -/
def asciiLower (c : CodePoint) : CodePoint :=
  if isAsciiUpper c then ofNat (c.val + 0x20) else c

end CodePoint

namespace Text

/-- The code points of a string. -/
def ofString (s : String) : Text := s.toList.map CodePoint.ofChar

theorem ofString_append (s t : String) : ofString (s ++ t) = ofString s ++ ofString t := by
  rw [ofString, String.toList_append, List.map_append]
  rfl

/-- A literal stands for the list of its characters. Rewritten to it, the literal is not encoded and
decoded again when it is evaluated. -/
theorem ofString_ofList (characters : List Char) :
    ofString (String.ofList characters) = characters.map CodePoint.ofChar := by
  rw [ofString, String.toList_ofList]

def ofChar (c : Char) : Text := [CodePoint.ofChar c]

/-- The decimal numeral of a natural number. -/
def ofNat (n : Nat) : Text := (Nat.toDigits 10 n).map CodePoint.ofChar

/-- The decimal numeral of an integer, with a minus sign below zero. -/
def ofInt : Int → Text
  | .ofNat n => ofNat n
  | .negSucc n => CodePoint.ofChar '-' :: ofNat (n + 1)

/-- Lower-case hexadecimal digits, filled up with zeros on the left to a width. -/
def hex (width n : Nat) : Text :=
  let digits := Nat.toDigits 16 n
  (List.replicate (width - digits.length) '0' ++ digits).map CodePoint.ofChar

/-- The parts with a separator between neighbours. -/
def join (separator : Text) : List Text → Text
  | [] => []
  | [part] => part
  | part :: next :: rest => part ++ separator ++ join separator (next :: rest)

/-- What precedes the first occurrence of a code point, and what follows it, if it occurs. -/
def cut (mark : CodePoint) : Text → Text × Option Text
  | [] => ([], none)
  | c :: rest =>
    if c = mark then ([], some rest)
    else
      let (before, after) := cut mark rest
      (c :: before, after)

/-- What precedes the first occurrence of a code point; the whole text if there is none. -/
def before (mark : CodePoint) (t : Text) : Text := t.takeWhile (· ≠ mark)

/-- What follows the last occurrence of a code point; the whole text if there is none. -/
def afterLast (mark : CodePoint) : Text → Text
  | [] => []
  | c :: rest =>
    if rest.contains mark then afterLast mark rest else if c = mark then rest else c :: rest

/-- The pieces between the occurrences of a code point; always at least one. -/
def pieces (mark : CodePoint) : Text → List Text
  | [] => [[]]
  | c :: rest =>
    if c = mark then [] :: pieces mark rest
    else
      match pieces mark rest with
      | [] => [[c]]
      | piece :: others => (c :: piece) :: others

/-- The text without a run of accepted code points at its start and its end. -/
def trim (blank : CodePoint → Bool) (t : Text) : Text :=
  ((t.dropWhile blank).reverse.dropWhile blank).reverse

/-- Line breaks of all three spellings become the line feed. -/
def unifyLineBreaks : Text → Text
  | [] => []
  | c :: rest =>
    if c = CodePoint.carriageReturn then
      match rest with
      | [] => [CodePoint.lineFeed]
      | d :: others =>
        if d = CodePoint.lineFeed then CodePoint.lineFeed :: unifyLineBreaks others
        else CodePoint.lineFeed :: unifyLineBreaks (d :: others)
    else c :: unifyLineBreaks rest

def line (t : Text) : Text := t ++ [CodePoint.lineFeed]

/-- A text does not come after another in the lexicographic order of code points. -/
def le : Text → Text → Bool
  | [], _ => true
  | _ :: _, [] => false
  | a :: s, b :: t => a.val < b.val || (a.val = b.val && le s t)

/-- Some code point is a lone surrogate, so the text has no encoding. -/
def hasSurrogate (t : Text) : Bool := t.any CodePoint.isSurrogate

end Text
end RecordGen
