import RecordGen.Source.Comment
import RecordGen.Source.Spelling
import RecordGen.Source.Tree

/-!
# Docstrings

A string literal that stands alone at the start of a text, a block or a function describes it. Its
lines are indented with the code around it, and the blanks at its ends go.
-/

namespace RecordGen.Source

/-- Ends a line of a docstring. -/
def isLineBoundary (c : CodePoint) : Bool :=
  (0x0A ≤ c.val && c.val ≤ 0x0D) || (0x1C ≤ c.val && c.val ≤ 0x1E) || c.val = 0x85 ||
    c.val = 0x2028 || c.val = 0x2029

/-- The lines of a text; a boundary at its end starts no line. -/
def boundaryLines : Text → List Text
  | [] => []
  | c :: rest =>
    if isLineBoundary c then [] :: boundaryLines rest
    else
      match boundaryLines rest with
      | [] => [[c]]
      | line :: others => (c :: line) :: others

/-- A text with its tabs as spaces up to the next multiple of eight columns. -/
def expandTabs (column : Nat) : Text → Text
  | [] => []
  | c :: rest =>
    if c = CodePoint.tab then
      let next := (column / 8 + 1) * 8
      List.replicate (next - column) CodePoint.space ++ expandTabs next rest
    else c :: expandTabs (column + 1) rest

/-- How many blanks a text starts with. -/
def blankPrefixLength (t : Text) : Nat := t.length - (trimStart t).length

def expandMargin (line : Text) : Text :=
  let count := blankPrefixLength line
  if count = line.length then line else expandTabs 0 (line.take count) ++ line.drop count

/-- The lines of a docstring with tabs in their margins expanded. -/
def docstringLines (t : Text) : List Text :=
  (boundaryLines t).map expandMargin ++
    (if t.getLast? = some CodePoint.lineFeed then [[]] else [])

/-- The least margin of some lines that are not blank. -/
def commonMargin? (lines : List Text) : Option Nat :=
  let counts := (lines.filter fun line => line.any (!Unicode.isBlank ·)).map blankPrefixLength
  counts.foldl (fun least count => some (min (least.getD count) count)) none

/-- The lines behind the first one with another margin. Blank lines are empty, but the last one keeps
the margin for the quote behind it. -/
def withMargin (margin : Text) (common : Nat) : List Text → List Text
  | [] => []
  | line :: rest =>
    let content := trimEnd (line.drop common)
    (if content.isEmpty && !rest.isEmpty then [] else margin ++ content) ::
      withMargin margin common rest

/-- A docstring of several lines with a margin in place of its own. -/
def reindented (margin : Text) (t : Text) : Text :=
  match docstringLines t with
  | [] => []
  | first :: rest =>
    let others :=
      match commonMargin? rest with
      | some common => withMargin margin common rest
      | none => []
    Text.join [CodePoint.lineFeed] (trimmed first :: others)

/-- The content of a docstring with a space where it would touch the quote: before a quote mark at
either end, and behind an odd number of backslashes. -/
def padded (quote : CodePoint) (t : Text) : Text :=
  let t := if t.head? = some quote then CodePoint.space :: t else t
  let ending := (t.reverse.takeWhile (· = backslash)).length
  if t.getLast? = some quote || ending % 2 = 1 then t ++ [CodePoint.space] else t

/-- The text behind a backslash ends its line, blanks apart. -/
def joinsLines : Text → Bool
  | [] => false
  | c :: rest =>
    (c = backslash &&
      (rest.takeWhile Unicode.isBlank).contains CodePoint.lineFeed) || joinsLines rest

namespace Literal

/-- The literal as a docstring behind a margin, in lines of at most a width. The quote goes on a line
of its own if the last of several lines has no room for it. -/
def asDocstring (lineLength : Int) (margin : Text) (l : Literal) : Literal :=
  let body :=
    if l.isMultiline then reindented margin l.body else l.body.trim Unicode.isBlank
  let body :=
    if body.isEmpty then (if l.body.isEmpty then [] else [CodePoint.space])
    else padded (l.quote.headD doubleQuote) body
  let lines := boundaryLines body
  let last := (lines.getLast?.getD []).length
  let breaks := l.quote.length = 3 && 1 < lines.length &&
    lineLength < ((last + 3 : Nat) : Int) && ((margin.length + 3 : Nat) : Int) ≤ lineLength &&
    l.body.getLast? ≠ some CodePoint.lineFeed
  { l with body := if breaks then body ++ CodePoint.lineFeed :: margin else body }

/-- An empty literal, which as a docstring has three quote marks on both sides. -/
def widened (l : Literal) : Literal :=
  if l.body.isEmpty && l.quote.length = 1 then
    { l with quote := l.quote ++ l.quote ++ l.quote }
  else l

end Literal

/-! ## Places -/

/-- The leaf at a place is a docstring: a plain string literal that is a statement of the first line
of a text or a block, or of the line of a function behind its parameters. -/
def isDocstring (l : Leaf) (path : Path) : Bool :=
  let mark := (Literal.ofText l.text).mark
  l.kind = .string && !mark.any (fun c => (Text.ofString "bBfF").contains c) &&
    match path with
    | line :: outer :: _ =>
      line.kind = .simpleLine &&
        ((outer.kind = .text && outer.before.isEmpty) ||
          match outer.before with
          | [indent, lineEnd] => indent.isLeafOf .indent && lineEnd.isLeafOf .lineEnd
          | colon :: parameters :: _ => colon.isMark ":" && parameters.isNode .parameters
          | _ => false)
    | _ => false

/-- The spelling of a string literal at a place: its docstring form behind a margin, if it is one and
joins no lines, and the preferred mark, quote and escapes. -/
def stringSpelling (normalize : Bool) (lineLength : Int) (margin : Text) (l : Leaf) (path : Path) :
    Text :=
  let literal := (Literal.ofText l.text).withPreferredEscapes
  let prefer (literal : Literal) : Literal := if normalize then literal.preferred else literal
  let literal :=
    if isDocstring l path && !joinsLines literal.text then
      (prefer literal).widened.asDocstring lineLength margin
    else literal
  (prefer literal).text

end RecordGen.Source
