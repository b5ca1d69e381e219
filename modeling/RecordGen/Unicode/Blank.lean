import RecordGen.Unicode.Ranges

/-!
# Blank code points

White space of every script, line and paragraph separators, and the information separators
U+001C to U+001F.
-/

namespace RecordGen.Unicode

/-- The ranges of blank code points. -/
def blankRanges : Ranges :=
  [(0x9, 0xD), (0x1C, 0x20), (0x85, 0x85), (0xA0, 0xA0), (0x1680, 0x1680), (0x2000, 0x200A),
   (0x2028, 0x2029), (0x202F, 0x202F), (0x205F, 0x205F), (0x3000, 0x3000)]

/-- The code point is white space. -/
def isBlank (c : CodePoint) : Bool := blankRanges.contains c

end RecordGen.Unicode
