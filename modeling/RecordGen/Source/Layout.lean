import RecordGen.Source.Blanks
import RecordGen.Source.Breaking
import RecordGen.Source.Kept
import RecordGen.Source.Parentheses
import RecordGen.Source.Parse
import RecordGen.Source.Version

/-!
# Layout

The canonical layout of code: its tree with optional parentheses arranged, cut into logical lines, set
apart by empty lines, and broken where they are too long. The line breaks of the text decide which line
breaks the layout has.
-/

namespace RecordGen.Source

structure LayoutOptions where
  /-- The greatest width of a line that could be broken. -/
  lineLength : Int
  /-- Single quotes become double ones where nothing more has to be escaped. -/
  normalizesStrings : Bool
  /-- A comma in front of a closing bracket asks for one item per line. -/
  heedsCommas : Bool
  /-- The minor version of the language that has to read the code, if one is set. -/
  target : Option Nat
deriving DecidableEq, Repr

/-- The least minor version of the language that has to read a tree. -/
def LayoutOptions.minor (options : LayoutOptions) (t : Tree) : Nat :=
  options.target.getD t.leastMinor

/-- How the lines of a tree are written. -/
def LayoutOptions.style (options : LayoutOptions) (t : Tree) : LineStyle :=
  ⟨options.lineLength, options.normalizesStrings, options.heedsCommas, options.minor t⟩

/-! ## Line breaks -/

/-- The line break of a layout is the first one of the text; a return and a line feed make one if they
follow each other. A text in one line has line feeds. -/
def lineBreakOf : Text → Text
  | [] => [CodePoint.lineFeed]
  | c :: rest =>
    if c = CodePoint.lineFeed then [CodePoint.lineFeed]
    else if c = CodePoint.carriageReturn then
      if rest.head? = some CodePoint.lineFeed then [c, CodePoint.lineFeed] else [c]
    else lineBreakOf rest

def withLineBreaks (lineBreak : Text) (t : Text) : Text :=
  t.flatMap fun c => if c = CodePoint.lineFeed then lineBreak else [c]

/-! ## Layout of trees -/

/-- The lines of a tree between their empty lines. -/
def Tree.lines (style : LineStyle) (t : Tree) : List SpacedLine :=
  let arranged := t.withKept.withOptionalParentheses (9 ≤ style.minor)
  spacedLines (arranged.logicalLines style)

/-- The canonical layout of a tree, with line feeds. -/
def Tree.layout (options : LayoutOptions) (t : Tree) : Text :=
  let style := options.style t
  (t.lines style).flatMap fun l => l.text (l.line.broken style)

/-! ## Layout of texts -/

/-- The tree of a text with unified line breaks, if the target can read it. -/
def readable? (options : LayoutOptions) (t : Text) : Option Tree :=
  (tree? (trimStart t)).filter fun tree => options.target.all tree.isReadableFor

/-- One pass of a layout over a text with unified line breaks. -/
def layoutOnce? (options : LayoutOptions) (t : Text) : Option Text := do
  let tree ← readable? options t
  match tree.layout options with
  | [] => some (if t.contains CodePoint.lineFeed then [CodePoint.lineFeed] else [])
  | laidOut => some laidOut

/-- The canonical layout of a text, if it can be read. What a first pass has changed takes a second
one. -/
def layout? (options : LayoutOptions) (t : Text) : Option Text := do
  let unified := t.unifyLineBreaks
  let first ← layoutOnce? options unified
  let second ← if first = unified then some first else layoutOnce? options first
  some (withLineBreaks (lineBreakOf t) second)

end RecordGen.Source
