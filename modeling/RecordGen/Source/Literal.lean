import RecordGen.Source.Leaf

/-!
# String literals

A literal is an optional mark of letters, a quote of one or three quote marks, a body and the same
quote again. This module finds the literal at the start of a text, takes one apart, and tells which
escapes may stand in it.
-/

namespace RecordGen.Source

/-- A string literal in its parts. -/
structure Literal where
  /-- The letters before the quote. -/
  mark : Text
  /-- One quote mark or three. -/
  quote : Text
  body : Text
deriving DecidableEq, Repr

def singleQuote : CodePoint := CodePoint.ofChar '\''

def doubleQuote : CodePoint := CodePoint.ofChar '"'

def backslash : CodePoint := CodePoint.ofChar '\\'

def isQuoteMark (c : CodePoint) : Bool := c = singleQuote || c = doubleQuote

/-- The letters that may stand before a quote, in any case. -/
def literalMarks : List Text :=
  ["b", "r", "u", "f", "br", "rb", "fr", "rf"].map Text.ofString

/-- The body of a literal behind its opening quote: everything up to the closing quote, and what
follows that. A backslash takes the next code point with it; one quote mark does not reach over the
end of a line. -/
def literalBody? (quote : Text) : (fuel : Nat) → Text → Option (Text × Text)
  | 0, _ => none
  | _, [] => none
  | fuel + 1, c :: rest =>
    if quote.isPrefixOf (c :: rest) then some ([], (c :: rest).drop quote.length)
    else if c = backslash then
      match rest with
      | [] => none
      | d :: rest =>
        (literalBody? quote fuel rest).map fun (body, after) => (c :: d :: body, after)
    else if c = CodePoint.lineFeed ∧ quote.length = 1 then none
    else (literalBody? quote fuel rest).map fun (body, after) => (c :: body, after)

/-- The quote at the start of a text: three equal quote marks, or one. -/
def openingQuote? : Text → Option Text
  | c :: rest =>
    if isQuoteMark c then
      if rest.take 2 = [c, c] then some [c, c, c] else some [c]
    else none
  | [] => none

/-- The literal behind the letters before it, and what follows it. -/
def quoted? (mark t : Text) : Option (Literal × Text) := do
  let quote ← openingQuote? t
  let (body, after) ← literalBody? quote (t.length + 1) (t.drop quote.length)
  return (⟨mark, quote, body⟩, after)

namespace Literal

def text (l : Literal) : Text := l.mark ++ l.quote ++ l.body ++ l.quote

/-- A spelling in its parts; the inverse of `text` on literals. -/
def ofText (t : Text) : Literal :=
  let mark := t.takeWhile fun c => !isQuoteMark c
  let behind := t.drop mark.length
  let quote := (openingQuote? behind).getD []
  ⟨mark, quote, (behind.drop quote.length).take (behind.length - 2 * quote.length)⟩

/-- A letter is among those before the quote, in either case. -/
def hasMark (l : Literal) (c : Char) : Bool :=
  (l.mark.map CodePoint.asciiLower).contains (CodePoint.ofChar c)

/-- Backslashes stand for themselves. -/
def isRaw (l : Literal) : Bool := l.hasMark 'r'

def isOctets (l : Literal) : Bool := l.hasMark 'b'

/-- Expressions stand between the braces of the literal. -/
def isInterpolated (l : Literal) : Bool := l.hasMark 'f'

/-- The literal goes over several lines. -/
def isMultiline (l : Literal) : Bool := l.quote.length = 3 && l.body.contains CodePoint.lineFeed

end Literal

/-! ## Escapes -/

/-- The value of hexadecimal digits; `none` if there are not as many as asked for. -/
def hexDigits? : (count : Nat) → (value : Nat) → Text → Option Nat
  | 0, value, _ => some value
  | _, _, [] => none
  | count + 1, value, c :: rest =>
    c.hexValue?.bind fun digit => hexDigits? count (value * 16 + digit) rest

/-- A name in braces, as the escape of a named character has it. -/
def hasCharacterName : Text → Bool
  | c :: rest =>
    let close := CodePoint.ofChar '\x7d'
    let name := rest.takeWhile (· ≠ close)
    c = CodePoint.ofChar '\x7b' && rest.contains close && name.head?.any CodePoint.isAsciiLetter
  | [] => false

/-- The escape of a letter is complete, given what follows the letter. Octets have no escapes for
characters beyond them; letters without a meaning stand for themselves. -/
def isEscape (octets : Bool) (letter : CodePoint) (after : Text) : Bool :=
  if letter = CodePoint.ofChar 'x' then (hexDigits? 2 0 after).isSome
  else if octets then true
  else if letter = CodePoint.ofChar 'u' then (hexDigits? 4 0 after).isSome
  else if letter = CodePoint.ofChar 'U' then (hexDigits? 8 0 after).any (· < 0x110000)
  else if letter = CodePoint.ofChar 'N' then hasCharacterName after
  else true

def escapesFit (octets : Bool) : (fuel : Nat) → Text → Bool
  | 0, _ => true
  | _, [] => true
  | fuel + 1, c :: rest =>
    if c = backslash then
      match rest with
      | [] => true
      | letter :: after => isEscape octets letter after && escapesFit octets fuel after
    else escapesFit octets fuel rest

/-- The literal of plain text or of octets is well formed: its escapes are complete, and octets are
ASCII. -/
def Literal.isPlain (l : Literal) : Bool :=
  (!l.isOctets || l.body.all CodePoint.isAscii) &&
    (l.isRaw || escapesFit l.isOctets (l.body.length + 1) l.body)

end RecordGen.Source
