import RecordGen.Unicode.Identifier

/-!
# Leaves

The smallest parts of a source text: words, numbers, strings and marks, and the ends of lines and
blocks. Each carries what stands before it, so the leaves of a text, written out in order, are the
text again.
-/

namespace RecordGen.Source

inductive LeafKind where
  /-- A name or a keyword. -/
  | word
  | number
  | string
  /-- An operator, a bracket or a separator. -/
  | mark
  | lineEnd
  | indent
  | dedent
  | finish
  /-- Text that a layout leaves as it is. -/
  | kept
deriving DecidableEq, Repr

/-- A leaf: its kind, its spelling, and the blanks, line breaks and comments before it. A hidden leaf
is a parenthesis that nobody wrote but that a layout may show. -/
structure Leaf where
  kind : LeafKind
  text : Text
  lead : Text := []
  hidden : Bool := false
deriving DecidableEq, Repr

namespace Leaf

/-- The leaf is a certain word. -/
@[inline] def isWord (l : Leaf) (s : String) : Bool :=
  l.kind = .word && l.text = Text.ofString s

/-- The leaf is a certain mark. -/
@[inline] def isMark (l : Leaf) (s : String) : Bool :=
  l.kind = .mark && l.text = Text.ofString s

/-- The leaf is the end of a line, or the beginning or end of a block. -/
def isMargin (l : Leaf) : Bool := l.kind = .lineEnd || l.kind = .indent || l.kind = .dedent

def shown (l : Leaf) : Text := if l.hidden then [] else l.text

end Leaf

/-! ## Words -/

/-- The words that are never names. -/
def keywords : List Text :=
  ["False", "None", "True", "and", "as", "assert", "async", "await", "break", "class", "continue",
    "def", "del", "elif", "else", "except", "finally", "for", "from", "global", "if", "import",
    "in", "is", "lambda", "nonlocal", "not", "or", "pass", "raise", "return", "try", "while",
    "with", "yield"].map Text.ofString

/-- The word is reserved. -/
def isKeyword (t : Text) : Bool := keywords.contains t

def isFieldName (t : Text) : Bool := Unicode.isIdentifier t && !isKeyword t

/-- The leaf is a word that is not reserved. -/
def Leaf.isName (l : Leaf) : Bool := l.kind = .word && !isKeyword l.text

/-- Belongs to a word: an ASCII letter, digit or underscore, or anything that is not ASCII. -/
def isWordPoint (c : CodePoint) : Bool :=
  c.isAsciiLetter || c.isAsciiDigit || c = CodePoint.ofChar '_' || !c.isAscii

/-! ## Brackets -/

/-- The bracket that closes an opening one. -/
def closing? (o : Text) : Option Text :=
  if o = Text.ofString "(" then some (.ofString ")")
  else if o = Text.ofString "[" then some (.ofString "]")
  else if o = Text.ofString "\x7b" then some (.ofString "\x7d")
  else none

def isClosing (o : Text) : Bool :=
  o = Text.ofString ")" || o = Text.ofString "]" || o = Text.ofString "\x7d"

/-- The leaf opens a bracket, shown or hidden. -/
def Leaf.opens (l : Leaf) : Bool := l.kind = .mark && (closing? l.text).isSome

/-- The leaf closes a bracket, shown or hidden. -/
def Leaf.closes (l : Leaf) : Bool := l.kind = .mark && isClosing l.text

end RecordGen.Source
