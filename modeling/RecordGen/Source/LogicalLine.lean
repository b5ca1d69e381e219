import RecordGen.Source.Docstring
import RecordGen.Source.Line

/-!
# Logical lines

The lines of a tree, each as long as its statement. A tree is first told as a list of events: its
leaves in order, and the places where a line ends. The lines are a fold over the events.
-/

namespace RecordGen.Source

/-- A line with what stands in front of it. -/
structure LogicalLine where
  line : Line
  /-- The empty lines in front of it. -/
  blanks : Nat
  /-- One of them holds a form feed. -/
  formFeed : Bool

/-! ## Events -/

/-- What is met on the way through a tree. -/
inductive Event where
  | leaf (l : Leaf) (path : Path)
  /-- The line ends, and the next one is so much deeper. -/
  | stop (shift : Int)

/-- The nodes whose body may stand on the line of their header. -/
def headedKinds : List NodeKind :=
  [.conditional, .whileLoop, .forLoop, .tryBlock, .exceptClause, .withBlock, .function, .classBlock,
    .matchBlock, .caseBlock]

/-- The words that start a line, as children of a node. -/
def startingWords : NodeKind → List String
  | .assertion => ["assert"]
  | .conditional => ["if", "elif", "else"]
  | .whileLoop => ["while", "else"]
  | .forLoop => ["for", "else"]
  | .tryBlock => ["try", "except", "else", "finally"]
  | .exceptClause => ["except"]
  | .withBlock => ["with"]
  | .classBlock => ["class"]
  | .returning => ["return"]
  | .deletion => ["del"]
  | _ => []

/-- The tree has text other than blanks in front. -/
def Tree.hasComment (t : Tree) : Bool := !t.lead.all Unicode.isBlank

/-- The tree is a line with nothing but an ellipsis. -/
def Tree.isEllipsisLine : Tree → Bool
  | .node .simpleLine [statement, _] =>
    statement.isNode .atom && !statement.hasComment && statement.children.length = 3 &&
      statement.children.all (·.isMark ".")
  | _ => false

/-- The kind of a node has functions and classes. -/
def isDefinition (kind : Option NodeKind) : Bool :=
  kind = some .function || kind = some .classBlock

/-- The children of a block, in a node of some kind, are an ellipsis and the margins around it. -/
def isStubBlock (outer : Option NodeKind) : List Tree → Bool
  | [lineEnd, indent, line, dedent] =>
    isDefinition outer && !lineEnd.hasComment && lineEnd.isLeafOf .lineEnd &&
      indent.isLeafOf .indent && line.isEllipsisLine && dedent.isLeafOf .dedent && !dedent.hasComment
  | _ => false

/-- The events of a leaf. A block ends behind the comments at its margin. The margins of a stub go. -/
def leafEvents (l : Leaf) (path : Path) : List Event :=
  let inStub :=
    l.isMargin && path.isIn .block && isStubBlock path.outerKind? (Path.siblings (.leaf l) path)
  if inStub then []
  else if l.kind = .indent then [.stop 1, .leaf l path]
  else if l.kind = .dedent then [.stop 0, .leaf l path, .stop (-1)]
  else if l.kind = .finish then [.leaf l path, .stop 0]
  else if l.isMark ";" then [.stop 0]
  else [.leaf l path]

/-- How lines end around a node, given the way up to it: in front of it, and behind it. -/
def stopsAround (kind : NodeKind) (path : Path) (children : List Tree) : List Event × List Event :=
  match kind with
  | .function => ([.stop 0], [])
  | .matchBlock => ([.stop 0], [])
  | .caseBlock => ([.stop 0], [])
  | .asyncFunction => ([.stop 0], [])
  | .asyncBlock => ([.stop 0], [])
  | .simpleLine =>
    let isStub := Tree.isEllipsisLine (.node .simpleLine children)
    if path.isInAny headedKinds then
      if isDefinition path.kind? && isStub then ([], []) else ([.stop 1], [.stop (-1)])
    else
      let siblings := Path.siblings (.node kind children) path
      let inStub := path.isIn .block && isStubBlock path.outerKind? siblings
      (if inStub then [] else [.stop 0], [])
  | _ => ([], [])

/-- A line ends in front of a child of a node. -/
def stopsBefore (kind : NodeKind) (t : Tree) : List Event :=
  if kind = .decorated || kind = .decorators || (startingWords kind).any t.isWord then [.stop 0]
  else []

mutual

def eventsOf (path : Path) : Tree → List Event
  | .leaf l => leafEvents l path
  | .node kind children =>
    let (front, behind) := stopsAround kind path children
    front ++ childEvents kind path [] children ++ behind

def childEvents (kind : NodeKind) (path : Path) (before : List Tree) : List Tree → List Event
  | [] => []
  | t :: rest =>
    stopsBefore kind t ++ eventsOf (⟨kind, before, rest⟩ :: path) t ++
      childEvents kind path (t :: before) rest

end

/-! ## Lines of events -/

/-- The lines that have been read, the last one first, and the one that is being read. -/
structure LineReader where
  lines : List LogicalLine := []
  draft : LineDraft := .start 0 false
  blanks : Nat := 0
  formFeed : Bool := false
  /-- The number of the last piece. -/
  count : Nat := 0
  /-- The line of the text. -/
  row : Nat := 1

namespace LineReader

/-- Nothing is on the line that is being read. -/
def isEmpty (r : LineReader) : Bool := r.draft.line.pieces.isEmpty

/-- Ends the line. An empty one only changes its depth. The word `async` alone waits for the
statement that it belongs to. -/
def stop (shift : Int) (r : LineReader) : LineReader :=
  let deeper (depth : Nat) : Nat := ((depth : Int) + shift).toNat
  match r.draft.line.pieces with
  | [] =>
    let line := { r.draft.line with depth := deeper r.draft.line.depth }
    { r with draft := { r.draft with line } }
  | pieces =>
    let waits :=
      match pieces with
      | [p] => p.isWord "async" && p.path.isInAny [.asyncFunction, .asyncBlock]
      | _ => false
    if waits then r
    else
      let line := r.draft.finish
      { r with
        lines := ⟨line, r.blanks, r.formFeed⟩ :: r.lines
        draft := .start (deeper line.depth) false
        blanks := 0
        formFeed := false }

/-- Reads a comment. In brackets it stays on the line; else it ends its line, and one on a line of
its own is a line. -/
def comment (style : LineStyle) (r : LineReader) (c : Comment) : LineReader :=
  if r.draft.brackets.anyOpen then
    if c.trails then { r with draft := r.draft.pushComment c.text }
    else
      { r with draft := r.draft.pushFollowed style.heedsCommas [] (.ofComment c.text) }
  else
    let r := if c.trails then r else r.stop 0
    let r := if r.isEmpty then { r with blanks := c.blanks, formFeed := c.formFeed } else r
    stop 0 { r with draft := r.draft.pushComment c.text }

def spelled (style : LineStyle) (r : LineReader) (l : Leaf) (path : Path) : Leaf :=
  match l.kind with
  | .number => { l with text := numberSpelling l.text }
  | .string =>
    let margin := Line.margin r.draft.line.depth
    { l with text := stringSpelling style.normalizesStrings style.lineLength margin l path }
  | _ => l

/-- Puts a leaf on the line. An empty pair of parentheses behind the name of a class goes. -/
def push (style : LineStyle) (r : LineReader) (l : Leaf) (path : Path) (row : Nat) : LineReader :=
  let p : Piece :=
    { id := r.count + 1
      leaf := r.spelled style l path
      spaced := !r.isEmpty && hasSpaceBefore l path
      path
      row := if l.hidden then 0 else row }
  let draft :=
    if l.isMark ":" && r.draft.isEmptyClass then r.draft.dropLast.dropLast else r.draft
  { r with
    draft := draft.pushFollowed style.heedsCommas [] p
    count := r.count + 1 }

/-- Reads a leaf: the comments in front of it, and then the leaf itself unless it is a margin. -/
def leaf (style : LineStyle) (r : LineReader) (l : Leaf) (path : Path) : LineReader :=
  let breaks (t : Text) : Nat := (t.filter (· = CodePoint.lineFeed)).length
  let row := r.row + breaks l.lead
  let r := if l.kind = .kept && !r.draft.brackets.anyOpen then r.stop 0 else r
  let comments := leadComments (l.kind = .finish) l.lead
  let r := comments.foldl (comment style) r
  let (blanks, formFeed) := leadBlanks comments l.lead
  let r := if r.isEmpty then { r with blanks, formFeed } else r
  let isShown := !(l.isMargin || l.kind = .finish)
  let r := if isShown then r.push style l path row else r
  { r with row := row + breaks l.text }

def event (style : LineStyle) (r : LineReader) : Event → LineReader
  | .leaf l path => r.leaf style l path
  | .stop shift => r.stop shift

end LineReader

def Tree.logicalLines (style : LineStyle) (t : Tree) : List LogicalLine :=
  ((eventsOf [] t).foldl (LineReader.event style) {}).lines.reverse

end RecordGen.Source
