import RecordGen.Source.Leaf

/-!
# Numerals

The number at the start of a text: whole numbers in four bases, decimal fractions with an exponent,
and an imaginary mark behind decimal ones. Single underscores may separate digits.
-/

namespace RecordGen.Source

/-- Digits in groups that single underscores separate, as far as they go. An underscore with no digit
behind it is refused. -/
def digitGroups? (isDigit : CodePoint → Bool) : Text → Option (Text × Text)
  | [] => some ([], [])
  | c :: rest =>
    let further := (digitGroups? isDigit rest).map fun (run, after) => (c :: run, after)
    if isDigit c then further
    else if c = CodePoint.ofChar '_' then
      match rest with
      | d :: _ => if isDigit d then further else none
      | [] => none
    else some ([], c :: rest)

def startsDigit : Text → Bool
  | c :: _ => c.isAsciiDigit
  | [] => false

/-- Decimal digits at the start of a text, none if it starts with something else. -/
def decimalDigits? (t : Text) : Option (Text × Text) :=
  if startsDigit t then digitGroups? CodePoint.isAsciiDigit t else some ([], t)

def startsKeyword (t : Text) (s : String) : Bool :=
  let keyword := Text.ofString s
  keyword.isPrefixOf t && !(t.drop keyword.length).head?.any isWordPoint

/-- A number may end before a text: before what belongs to no word, and before the keywords that may
follow a number. -/
def endsNumber (after : Text) : Bool :=
  !after.head?.any isWordPoint ||
    ["and", "else", "for", "or", "not"].any (startsKeyword after) ||
    ["if", "in", "is"].any fun s => (Text.ofString s).isPrefixOf after

/-- The exponent at the start of a text, if there is one. A sign needs digits behind it. -/
def exponent? : Text → Option (Text × Text)
  | [] => some ([], [])
  | mark :: rest =>
    if mark.asciiLower = CodePoint.ofChar 'e' then
      match rest with
      | sign :: digits =>
        if sign = CodePoint.ofChar '+' ∨ sign = CodePoint.ofChar '-' then
          if startsDigit digits then
            (decimalDigits? digits).map fun (run, after) => (mark :: sign :: run, after)
          else none
        else if startsDigit rest then
          (decimalDigits? rest).map fun (run, after) => (mark :: run, after)
        else some ([], mark :: rest)
      | [] => some ([], mark :: rest)
    else some ([], mark :: rest)

/-- The fraction at the start of a text, if there is one: a point and perhaps digits. -/
def fraction? : Text → Option (Text × Text)
  | [] => some ([], [])
  | c :: rest =>
    if c = CodePoint.ofChar '.' then
      (decimalDigits? rest).map fun (run, after) => (c :: run, after)
    else some ([], c :: rest)

def imaginaryMark : Text → Text × Text
  | [] => ([], [])
  | c :: rest =>
    if c.asciiLower = CodePoint.ofChar 'j' then ([c], rest) else ([], c :: rest)

/-- How many digits the numeral of a whole number may have. -/
def maxWholeDigits : Nat := 4300

/-- Decimal digits can be a whole number: not too many, and no zero before other digits. -/
def isWhole (digits : Text) : Bool :=
  let plain := digits.filter CodePoint.isAsciiDigit
  let zero := CodePoint.ofChar '0'
  plain.length ≤ maxWholeDigits && !(plain.head? = some zero && plain.any (· ≠ zero))

/-- A decimal number at the start of a text. -/
def decimal? (t : Text) : Option (Text × Text) := do
  let (whole, after) ← decimalDigits? t
  let (fraction, after) ← fraction? after
  let (exponent, after) ← exponent? after
  let (imaginary, after) := imaginaryMark after
  let rest := fraction ++ exponent ++ imaginary
  if endsNumber after && (!rest.isEmpty || isWhole whole) then return (whole ++ rest, after)
  else none

/-- The digits of the base that a mark behind a zero stands for. -/
def baseDigit? (mark : CodePoint) : Option (CodePoint → Bool) :=
  let mark := mark.asciiLower
  if mark = CodePoint.ofChar 'x' then some fun c => c.hexValue?.isSome
  else if mark = CodePoint.ofChar 'o' then some fun c => c.isAsciiDigit && c.val < 0x38
  else if mark = CodePoint.ofChar 'b' then some fun c => c.isAsciiDigit && c.val < 0x32
  else none

/-- Digits of a base behind its mark, perhaps after an underscore. -/
def basedDigits? (isDigit : CodePoint → Bool) (t : Text) : Option (Text × Text) := do
  let start := if t.head? = some (CodePoint.ofChar '_') then t.drop 1 else t
  if !start.head?.any isDigit then none
  else
    let (run, after) ← digitGroups? isDigit start
    if after.head?.any CodePoint.isAsciiDigit || !endsNumber after then none
    else return (t.take (t.length - start.length) ++ run, after)

/-- The number at the start of a text that starts with a digit, or with a point and a digit. -/
def numeral? (t : Text) : Option (Text × Text) :=
  match t with
  | zero :: mark :: rest =>
    if zero = CodePoint.ofChar '0' then
      match baseDigit? mark with
      | some isDigit =>
        (basedDigits? isDigit rest).map fun (run, after) => (zero :: mark :: run, after)
      | none => decimal? t
    else decimal? t
  | _ => decimal? t

end RecordGen.Source
