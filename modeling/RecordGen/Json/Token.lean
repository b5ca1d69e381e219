import RecordGen.Json.Value

/-!
# Tokens of a document

The lexical level of a document: punctuation, texts with their escapes, numbers and the literal
words, each with the offset of its first code point. A text that breaks a rule is a token too, so
that the grammar decides whether it is reached.
-/

namespace RecordGen.Json

/-- What can be wrong with a document. -/
inductive Fault where
  | expectedValue
  | expectedName
  | expectedColon
  | expectedComma
  | unterminatedText
  | controlCharacter
  | badEscape
  | badUnicodeEscape
  | extraData
  | byteOrderMark
deriving DecidableEq, Repr

def Fault.message : Fault → Text
  | expectedValue => .ofString "Expecting value"
  | expectedName => .ofString "Expecting property name enclosed in double quotes"
  | expectedColon => .ofString "Expecting ':' delimiter"
  | expectedComma => .ofString "Expecting ',' delimiter"
  | unterminatedText => .ofString "Unterminated string starting at"
  | controlCharacter => .ofString "Invalid control character at"
  | badEscape => .ofString "Invalid \\escape"
  | badUnicodeEscape => .ofString "Invalid \\uXXXX escape"
  | extraData => .ofString "Extra data"
  | byteOrderMark => .ofString "Unexpected UTF-8 BOM (decode using utf-8-sig)"

/-- A fault and its offset, counted in code points. -/
structure SyntaxError where
  fault : Fault
  offset : Nat
deriving DecidableEq, Repr

structure Exponent where
  mark : CodePoint
  sign : Option CodePoint
  digits : Text
deriving DecidableEq, Repr

/-- A number as written. -/
structure Numeral where
  negative : Bool
  whole : Text
  /-- The digits after the point, if there is one. -/
  fraction : Option Text
  exponent : Option Exponent
deriving DecidableEq, Repr

def Exponent.text (e : Exponent) : Text := e.mark :: e.sign.toList ++ e.digits

/-- The spelling of a number. -/
def Numeral.text (n : Numeral) : Text :=
  (if n.negative then Text.ofChar '-' else []) ++ n.whole ++
    (match n.fraction with
    | some digits => CodePoint.ofChar '.' :: digits
    | none => []) ++
    (match n.exponent with
    | some e => e.text
    | none => [])

/-- The lexical units. -/
inductive Token where
  | openBrace
  | closeBrace
  | openBracket
  | closeBracket
  | colon
  | comma
  | text (t : Text)
  | brokenText (error : SyntaxError)
  | numeral (n : Numeral)
  | word (v : Value)
  /-- A code point that starts no unit. -/
  | stray
deriving Repr

/-- Space, tab, line feed and carriage return. -/
def isSpace (c : CodePoint) : Bool :=
  c.val = 0x20 || c.val = 0x09 || c.val = 0x0A || c.val = 0x0D

/-! ## Texts -/

def shortEscape? (c : CodePoint) : Option CodePoint :=
  if c = CodePoint.ofChar '"' ∨ c = CodePoint.ofChar '\\' ∨ c = CodePoint.ofChar '/' then some c
  else if c = CodePoint.ofChar 'b' then some CodePoint.backspace
  else if c = CodePoint.ofChar 'f' then some CodePoint.formFeed
  else if c = CodePoint.ofChar 'n' then some CodePoint.lineFeed
  else if c = CodePoint.ofChar 'r' then some CodePoint.carriageReturn
  else if c = CodePoint.ofChar 't' then some CodePoint.tab
  else none

def fourDigits? (a b c d : CodePoint) : Option CodePoint :=
  match a.hexValue?, b.hexValue?, c.hexValue?, d.hexValue? with
  | some w, some x, some y, some z => some (CodePoint.ofNat (((w * 16 + x) * 16 + y) * 16 + z))
  | _, _, _, _ => none

inductive TextStep where
  | finished
  | point (c : CodePoint)
  | broken (error : SyntaxError)
deriving Repr

/-- The fault of an escape whose letter `u` is at an offset. -/
def brokenUnicode (offset : Nat) : TextStep := .broken ⟨.badUnicodeEscape, offset⟩

/-- Reads what follows the letter `u` of an escape, that letter being at `offset`: four digits with
at least one more code point behind them, and with them the second half of a surrogate pair that is
escaped right behind. The number says how many code points of the rest are used up. -/
def unicodeEscape (offset : Nat) (rest : Text) : TextStep × Nat :=
  match rest with
  | a :: b :: c :: d :: next :: rest =>
    match fourDigits? a b c d with
    | none => (brokenUnicode offset, 0)
    | some first =>
      if first.isHighSurrogate ∧ next = CodePoint.ofChar '\\' then
        match rest with
        | u :: a :: b :: c :: d :: _ :: _ =>
          if u = CodePoint.ofChar 'u' then
            match fourDigits? a b c d with
            | none => (brokenUnicode (offset + 6), 0)
            | some second =>
              if second.isLowSurrogate then (.point (CodePoint.ofSurrogates first second), 10)
              else (.point first, 4)
          else (.point first, 4)
        | _ => (.point first, 4)
      else (.point first, 4)
  | _ => (brokenUnicode offset, 0)

/-- Reads one step of a text that opened at `start`; `offset` is where `rest` starts. The number
says how many code points are used up. -/
def textStep (start offset : Nat) (rest : Text) : TextStep × Nat :=
  match rest with
  | [] => (.broken ⟨.unterminatedText, start⟩, 0)
  | c :: rest =>
    if c = CodePoint.ofChar '"' then (.finished, 1)
    else if c.val < 0x20 then (.broken ⟨.controlCharacter, offset⟩, 0)
    else if c = CodePoint.ofChar '\\' then
      match rest with
      | [] => (.broken ⟨.unterminatedText, start⟩, 0)
      | letter :: rest =>
        if letter = CodePoint.ofChar 'u' then
          let (step, used) := unicodeEscape (offset + 1) rest
          (step, used + 2)
        else
          match shortEscape? letter with
          | some point => (.point point, 2)
          | none => (.broken ⟨.badEscape, offset⟩, 0)
    else (.point c, 1)

/-- Reads the rest of a text that opened at `start`. The result is the token with the code points
behind it; `fuel` bounds the steps and the length of the rest is enough. -/
def scanText (start : Nat) : (fuel offset : Nat) → Text → Text → Token × Nat
  | 0, offset, _, _ => (.brokenText ⟨.unterminatedText, start⟩, offset)
  | fuel + 1, offset, read, rest =>
    match textStep start offset rest with
    | (.finished, used) => (.text read.reverse, offset + used)
    | (.point c, used) => scanText start fuel (offset + used) (c :: read) (rest.drop used)
    | (.broken error, _) => (.brokenText error, offset)

/-! ## Numbers -/

/-- The digits at the start of a text, and what follows them. -/
def digitRun (t : Text) : Text × Text := t.span CodePoint.isAsciiDigit

/-- A fraction at the start of a text: a point and at least one digit. -/
def fraction? (t : Text) : Option Text × Text :=
  match t with
  | point :: rest =>
    if point = CodePoint.ofChar '.' then
      match digitRun rest with
      | ([], _) => (none, t)
      | (digits, rest) => (some digits, rest)
    else (none, t)
  | [] => (none, t)

/-- An exponent at the start of a text: a mark, perhaps a sign, and at least one digit. -/
def exponent? (t : Text) : Option Exponent × Text :=
  match t with
  | mark :: rest =>
    if mark = CodePoint.ofChar 'e' ∨ mark = CodePoint.ofChar 'E' then
      let (sign, unsigned) :=
        match rest with
        | sign :: after =>
          if sign = CodePoint.ofChar '-' ∨ sign = CodePoint.ofChar '+' then (some sign, after)
          else (none, rest)
        | [] => (none, rest)
      match digitRun unsigned with
      | ([], _) => (none, t)
      | (digits, rest) => (some ⟨mark, sign, digits⟩, rest)
    else (none, t)
  | [] => (none, t)

/-- A number at the start of a text: perhaps a minus sign, then a lone zero or digits that start
with no zero, then perhaps a fraction and perhaps an exponent. -/
def numeral? (t : Text) : Option (Numeral × Text) :=
  let (negative, unsigned) :=
    match t with
    | sign :: rest => if sign = CodePoint.ofChar '-' then (true, rest) else (false, t)
    | [] => (false, t)
  match unsigned with
  | [] => none
  | first :: rest =>
    if first.isAsciiDigit then
      let (whole, rest) :=
        if first = CodePoint.ofChar '0' then ([first], rest)
        else
          let (digits, rest) := digitRun rest
          (first :: digits, rest)
      let (fraction, rest) := fraction? rest
      let (exponent, rest) := exponent? rest
      some (⟨negative, whole, fraction, exponent⟩, rest)
    else none

/-! ## All tokens -/

/-- The literal words and their values. -/
def words : List (Text × Value) :=
  [(.ofString "null", .null), (.ofString "true", .bool true), (.ofString "false", .bool false),
    (.ofString "NaN", .float .nan), (.ofString "Infinity", .float (.infinite false)),
    (.ofString "-Infinity", .float (.infinite true))]

/-- The word at the start of a text, and its length. -/
def word? (t : Text) : Option (Value × Nat) :=
  (words.find? fun entry => entry.1.isPrefixOf t).map fun entry => (entry.2, entry.1.length)

def punctuation? (c : CodePoint) : Option Token :=
  if c = CodePoint.ofChar '\x7b' then some .openBrace
  else if c = CodePoint.ofChar '\x7d' then some .closeBrace
  else if c = CodePoint.ofChar '[' then some .openBracket
  else if c = CodePoint.ofChar ']' then some .closeBracket
  else if c = CodePoint.ofChar ':' then some .colon
  else if c = CodePoint.ofChar ',' then some .comma
  else none

/-- The token at the start of a text whose first code point is at `offset`, and how many code
points it takes; `fuel` is at least the length of the rest. -/
def token (fuel offset : Nat) (c : CodePoint) (rest : Text) : Token × Nat :=
  match punctuation? c with
  | some mark => (mark, 1)
  | none =>
    if c = CodePoint.ofChar '"' then
      let (token, finish) := scanText offset (fuel + 1) (offset + 1) [] rest
      (token, finish - offset)
    else
      match word? (c :: rest) with
      | some (value, used) => (.word value, used)
      | none =>
        match numeral? (c :: rest) with
        | some (n, _) => (.numeral n, n.text.length)
        | none => (.stray, 1)

/-- The tokens of a text whose first code point is at `offset`. Nothing is read past a broken
text. -/
def tokensFrom : (fuel offset : Nat) → Text → List (Nat × Token)
  | 0, _, _ => []
  | _, _, [] => []
  | fuel + 1, offset, c :: rest =>
    if isSpace c then tokensFrom fuel (offset + 1) rest
    else
      match token fuel offset c rest with
      | (.brokenText error, _) => [(offset, .brokenText error)]
      | (t, used) => (offset, t) :: tokensFrom fuel (offset + used) ((c :: rest).drop used)

def tokens (t : Text) : List (Nat × Token) := tokensFrom (t.length + 1) 0 t

end RecordGen.Json
