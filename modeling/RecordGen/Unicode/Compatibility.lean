import RecordGen.Unicode.Ranges

/-!
# Compatibility forms of URI delimiters

Characters whose compatibility normalization (NFKC, Unicode 14) brings out a slash, a question mark,
a number sign, an at sign or a colon.
-/

namespace RecordGen.Unicode

/-- The ranges of characters that normalize to a text with a URI delimiter. -/
def delimiterFormRanges : Ranges :=
  [(0x2047, 0x2049), (0x2100, 0x2101), (0x2105, 0x2106), (0x2A74, 0x2A74), (0xFE13, 0xFE13),
   (0xFE16, 0xFE16), (0xFE55, 0xFE56), (0xFE5F, 0xFE5F), (0xFE6B, 0xFE6B), (0xFF03, 0xFF03),
   (0xFF0F, 0xFF0F), (0xFF1A, 0xFF1A), (0xFF1F, 0xFF20)]

/-- The code point turns into a text with a URI delimiter under compatibility normalization. -/
def isDelimiterForm (c : CodePoint) : Bool := delimiterFormRanges.contains c

end RecordGen.Unicode
