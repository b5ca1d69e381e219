import RecordGen.Source.LogicalLine

/-!
# Empty lines

How many empty lines stand around each line of a text. The lines that someone wrote stay, up to one in
a block and two outside; functions, classes, imports and docstrings ask for a number of their own.
-/

namespace RecordGen.Source

/-- A line between empty lines. A negative number of them counts as none. -/
structure SpacedLine where
  line : Line
  before : Int
  after : Int
  formFeed : Bool

namespace Line

def isDocstring (l : Line) : Bool := l.pieces.head?.any fun p => Source.isDocstring p.leaf p.path

/-- The line starts a function, a class or a decorator. -/
def isDefinition (l : Line) : Bool := l.isDecorator || l.isFunction || l.isClass

/-- The line starts with kept code that was an import. -/
def isKeptImport (l : Line) : Bool :=
  l.pieces.head?.any fun p =>
    p.isKept && ((Text.ofString "import").isPrefixOf p.leaf.text ||
      (Text.ofString "from").isPrefixOf p.leaf.text)

/-- The first word of the line starts a statement of its own, and does not go on with another. -/
def startsStatement (l : Line) : Bool :=
  ["with", "try", "for", "while", "if", "match"].any fun word =>
    l.pieces.head?.any fun p => p.leaf.text = Text.ofString word

end Line

/-- The lines that have been spaced, the last one first. -/
structure Spacer where
  lines : List SpacedLine := []
  /-- The functions and classes around the next line, and those that have just ended; the innermost
  one first. -/
  definitions : List Line := []
  /-- The number of the line, counted from the start, of the first of the comments that lead up to the
  next line. -/
  leading : Option Nat := none

namespace Spacer

/-- The line of a number. -/
def line? (s : Spacer) (n : Nat) : Option SpacedLine := s.lines.reverse[n]?

/-- Changes the number of empty lines in front of a line. -/
def setBefore (s : Spacer) (n : Nat) (before : Int) : Spacer :=
  let position := s.lines.length - 1 - n
  { s with lines := s.lines.modify position fun line => { line with before } }

/-- The empty lines in front of a line that comes behind a definition which has ended. -/
def afterDefinition (ended line : Line) : Nat :=
  if 0 < line.depth then 1
  else if 0 < ended.depth && line.opensBlock && !line.startsStatement then 1
  else 2

/-- The empty lines in front of a definition behind another line, and the spacer with the comments
that lead up to it set apart in place of the definition. -/
def beforeDefinition (s : Spacer) (previous : SpacedLine) (line : Line) (before : Nat)
    (hadBlanks : Bool) : Nat × Spacer :=
  let above := previous.line
  let blanks : Nat := if 0 < line.depth then 1 else 2
  if above.isDecorator then (0, s)
  else if above.depth < line.depth && (above.isClass || above.isFunction) then
    (if hadBlanks then 1 else 0, s)
  else if above.isComment && above.depth = line.depth && before = 0 then
    match s.leading.bind fun n => (s.line? n).map fun first => (n, first) with
    | some (n, first) =>
      match if n = 0 then none else s.line? (n - 1) with
      | some outside =>
        if !outside.line.isClass && !outside.line.opensBlock && first.before ≤ 1 then
          (0, s.setBefore n (max first.before (blanks : Int) - outside.after))
        else (0, s)
      | none => (0, s)
    | none => (0, s)
  else if above.isStubFunction && !hadBlanks then (0, s)
  else (blanks, s)

/-- The empty lines in front of and behind a line that is no definition, behind another line. -/
def aroundStatement (above line : Line) (before : Nat) : Nat × Nat :=
  if above.isImport && !line.isImport && !line.isKeptImport && above.depth = line.depth then
    (if line.isComment then max before 1 else 1, 0)
  else if above.isClass && line.isDocstring then (0, 1)
  else if above.opensBlock && line.isDocstring && (above.isClass || above.isFunction) then (0, 0)
  else (before, 0)

/-- The last line is the docstring of the text: it stands alone, behind nothing but comments. -/
def endsDocstring (s : Spacer) : Bool :=
  match s.lines with
  | last :: others =>
    last.line.pieces.length = 1 && last.line.isDocstring && last.line.depth = 0 &&
      others.all (·.line.isComment)
  | [] => false

def add (s : Spacer) (l : LogicalLine) : Spacer :=
  let line := l.line
  let asked := min l.blanks (if line.depth = 0 then 2 else 1)
  let ended := s.definitions.takeWhile fun d => line.depth ≤ d.depth
  let s := { s with definitions := s.definitions.drop ended.length }
  let before := (ended.getLast?.map fun d => afterDefinition d line).getD asked
  let s :=
    if line.isFunction || line.isClass then { s with definitions := line :: s.definitions } else s
  let (before, after, s) : Int × Int × Spacer :=
    match s.lines with
    | [] => (0, 0, s)
    | previous :: _ =>
      let ((before, after), s) :=
        if line.isDefinition then
          let (before, s) := s.beforeDefinition previous line before (0 < asked)
          ((before, 0), s)
        else (aroundStatement previous.line line before, s)
      let before :=
        if s.endsDocstring && !(line.isClass || line.isFunction) then 1
        else (before : Int) - previous.after
      (before, after, s)
  let leading :=
    if line.isComment then
      let starts := match s.lines with
        | [] => true
        | previous :: _ => !previous.line.isDecorator && (s.leading.isNone || before ≠ 0)
      if starts then some s.lines.length else s.leading
    else if line.isDecorator then s.leading
    else none
  { s with lines := ⟨line, before, after, l.formFeed && line.depth = 0⟩ :: s.lines, leading }

end Spacer

/-- Lines between empty lines. Nothing stands behind the last one. -/
def spacedLines (lines : List LogicalLine) : List SpacedLine :=
  match (lines.foldl Spacer.add {}).lines with
  | last :: others => ({ last with after := 0 } :: others).reverse
  | [] => []

namespace SpacedLine

/-- Some line breaks, at least none. -/
def emptyLines (n : Int) : Text := List.replicate n.toNat CodePoint.lineFeed

/-- The lines that a line has become, between empty lines. The last empty line in front may hold a
form feed. -/
def text (s : SpacedLine) (lines : List Text) : Text :=
  let before :=
    if s.formFeed then emptyLines (s.before - 1) ++ [CodePoint.formFeed, CodePoint.lineFeed]
    else emptyLines s.before
  before ++ lines.flatMap Text.line ++ emptyLines s.after

end SpacedLine

end RecordGen.Source
