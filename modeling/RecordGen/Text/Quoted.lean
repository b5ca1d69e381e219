import RecordGen.Unicode.Printable

/-!
# Quoted texts

How a text is shown inside a message: between quotes, on one line, with everything unprintable
spelled by its number.
-/

namespace RecordGen.Text

/-- Single quotes, unless the text holds a single quote and no double one. -/
def quoteMark (t : Text) : CodePoint :=
  let single := CodePoint.ofChar '\''
  let double := CodePoint.ofChar '"'
  if t.contains single ∧ !t.contains double then double else single

/-- The spelling of one code point between the given quotes. -/
def quotedPoint (mark c : CodePoint) : Text :=
  let backslash := CodePoint.ofChar '\\'
  if c = mark ∨ c = backslash then [backslash, c]
  else if c.val = 0x0A then .ofString "\\n"
  else if c.val = 0x0D then .ofString "\\r"
  else if c.val = 0x09 then .ofString "\\t"
  else if Unicode.isPrintable c then [c]
  else if c.val < 0x100 then .ofString "\\x" ++ hex 2 c.val
  else if c.val < 0x10000 then .ofString "\\u" ++ hex 4 c.val
  else .ofString "\\U" ++ hex 8 c.val

/-- The text between quotes. The quote in use and the backslash take a backslash, line feed,
carriage return and tab their letters, other unprintable code points their number. -/
def quoted (t : Text) : Text :=
  let mark := quoteMark t
  mark :: t.flatMap (quotedPoint mark) ++ [mark]

end RecordGen.Text
