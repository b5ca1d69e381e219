import RecordGen.Unicode.Width
import RecordGen.Source.Piece

/-!
# Lines

A line of pieces at a depth of blocks. Pieces are put on a line one by one; where the brackets of the
line are followed, each piece learns its depth, closing brackets their opening ones, and a comma in
front of a closing bracket can ask for one item per line.
-/

namespace RecordGen.Source

structure Line where
  /-- How many blocks the line is in. -/
  depth : Nat
  pieces : List Piece := []
  /-- The line is a part of the inside of brackets. -/
  inside : Bool := false
  /-- The line is to be broken even if it is short. -/
  forced : Bool := false
  /-- A comma in front of a closing bracket asks for one item per line. -/
  exploded : Bool := false
  /-- The hidden parentheses among the brackets that are followed. -/
  invisible : List Nat := []

namespace Line

/-! ## What a line is -/

/-- The line is a comment, or kept code. -/
def isComment (l : Line) : Bool :=
  match l.pieces with
  | [p] => p.isKept
  | _ => false

def isImport (l : Line) : Bool :=
  l.pieces.head?.any fun p =>
    (p.isWord "import" && p.path.isIn .importName) || (p.isWord "from" && p.path.isIn .importFrom)

def isDecorator (l : Line) : Bool := l.pieces.head?.any (·.isMark "@")

def isClass (l : Line) : Bool := l.pieces.head?.any (·.isWord "class")

def isFunction (l : Line) : Bool :=
  match l.pieces with
  | first :: rest =>
    first.isWord "def" || (first.isWord "async" && rest.head?.any (·.isWord "def"))
  | [] => false

/-- The line starts a block in contexts. -/
def isWithBlock (l : Line) : Bool :=
  l.pieces.head?.any fun p =>
    (p.isWord "with" && p.path.isIn .withBlock) ||
      (p.isWord "async" && p.path.next?.any (·.isNode .withBlock))

/-- The line ends with a colon, so a block follows. -/
def opensBlock (l : Line) : Bool := l.pieces.getLast?.any (·.isMark ":")

/-- The line is a function whose body is an ellipsis. -/
def isStubFunction (l : Line) : Bool :=
  let ending := l.pieces.drop (l.pieces.length - 4)
  l.isFunction &&
    match ending with
    | colon :: dots => colon.isMark ":" && dots.length = 3 && dots.all (·.isMark ".")
    | [] => false

/-- The line assigns a value more than once. -/
def isChainedAssignment (l : Line) : Bool := 1 < (l.pieces.filter (·.isMark "=")).length

/-- There is a comment of its own line in the line, or kept code. -/
def hasKept (l : Line) : Bool := l.pieces.any Piece.isKept

/-- There is a string over several lines in the line. -/
def hasMultilineString (l : Line) : Bool := l.pieces.any Piece.isMultilineString

/-! ## What is seen of a line -/

def margin (depth : Nat) : Text := List.replicate (4 * depth) CodePoint.space

/-- The line without its line end. -/
def text (shown : Shown) (l : Line) : Text :=
  let comments := l.pieces.flatMap Piece.comments
  margin l.depth ++ l.pieces.flatMap (Piece.spacedText shown) ++
    comments.flatMap fun c => CodePoint.space :: CodePoint.space :: c

/-- The line fits into a number of columns: it is one line, and no comment ends it early. -/
def fits (columns : Int) (shown : Shown) (l : Line) : Bool :=
  let t := l.text shown
  ((Unicode.textWidth t : Nat) : Int) ≤ columns && !t.contains CodePoint.lineFeed && !l.hasKept

/-! ## Comments that tell types -/

/-- The last pieces of a line, which may be followed by a comma or a parenthesis that the layout
adds. -/
def lastPieces (shown : Shown) (l : Line) : List Nat :=
  match l.pieces.reverse with
  | [] => []
  | last :: rest =>
    let added := last.isMark "," || (last.isMark ")" && !last.isSeen shown)
    last.id :: if added then (rest.head?.map Piece.id).toList else []

/-- Comments, with the pieces that they stand behind, cannot all go to the end of one line: one tells
a type and would come behind another one, or away from the end. -/
def typesApart (last : List Nat) (seen : Bool) : List (Nat × Text) → Bool
  | [] => false
  | (id, comment) :: rest =>
    (isTypeComment comment && (seen || (!isTypeIgnore comment && !last.contains id))) ||
      typesApart last true rest

/-- The comments of the line cannot all go to its end. -/
def keepsTypesApart (shown : Shown) (l : Line) : Bool :=
  1 < l.pieces.length &&
    typesApart (l.lastPieces shown) false
      (l.pieces.flatMap fun p => p.comments.map fun comment => (p.id, comment))

/-- The line ends with a comment that types are not to be checked, which would lose its sense if the
line were broken. -/
def endsUnchecked (l : Line) : Bool :=
  let rows := (l.pieces.map Piece.row).filter (· ≠ 0)
  rows.head? = rows.getLast? &&
    (l.pieces.drop (l.pieces.length - 2)).any fun p => p.comments.any isTypeIgnore

/-- Strings that follow each other have comments between them. -/
def hasCommentedStrings : List Piece → Bool
  | p :: q :: rest =>
    let isString (p : Piece) : Bool := p.leaf.kind = .string
    (isString p && isString q && (!p.comments.isEmpty || !q.comments.isEmpty)) ||
      hasCommentedStrings (q :: rest)
  | _ => false

end Line

/-! ## Brackets -/

/-- The brackets of a line that are open. The variables of a loop and the parameters of an anonymous
function count as if they were in brackets. -/
structure Brackets where
  depth : Nat := 0
  /-- The open brackets, innermost first: the depth outside, the mark that closes it, the number of
  the opening piece. -/
  pending : List (Nat × Text × Nat) := []
  loops : List Nat := []
  lambdas : List Nat := []
  previous : Option Leaf := none

namespace Brackets

def anyOpen (b : Brackets) : Bool := !b.pending.isEmpty

/-- The variables of a loop or the parameters of an anonymous function are open. -/
def inVariables (b : Brackets) : Bool := !b.loops.isEmpty || !b.lambdas.isEmpty

/-- The bracket at a depth that a mark closes. -/
def opening? (b : Brackets) (depth : Nat) (close : Text) : Option (Nat × Text × Nat) :=
  b.pending.find? fun (outside, mark, _) => outside = depth && mark = close

/-- The brackets without the variables that a piece ends. -/
def leaveVariables (b : Brackets) (p : Piece) : Brackets :=
  let b :=
    if p.isWord "in" && b.loops.head? = some b.depth then
      { b with depth := b.depth - 1, loops := b.loops.drop 1 }
    else b
  if p.isMark ":" && b.lambdas.head? = some b.depth then
    { b with depth := b.depth - 1, lambdas := b.lambdas.drop 1 }
  else b

def enterVariables (b : Brackets) (p : Piece) : Brackets :=
  if p.isWord "lambda" then
    { b with depth := b.depth + 1, lambdas := (b.depth + 1) :: b.lambdas }
  else if p.isWord "for" then { b with depth := b.depth + 1, loops := (b.depth + 1) :: b.loops }
  else b

/-- A piece with its depth and its opening bracket, the brackets behind it, and how well the line can
be broken in front of it. A closing bracket without an opening one changes nothing. -/
def follow (b : Brackets) (p : Piece) : Piece × Brackets × Nat :=
  if p.closes && b.depth = 0 && (b.opening? 0 p.leaf.text).isNone then
    ({ p with priority := Priority.none }, b, Priority.none)
  else
    let b := b.leaveVariables p
    let b := if p.closes then { b with depth := b.depth - 1 } else b
    let opening := if p.closes then b.opening? b.depth p.leaf.text else none
    let pending := b.pending.filter fun entry => some entry.2.2 ≠ opening.map (·.2.2)
    let outside := b.depth = 0
    let before :=
      if outside && b.previous.isSome then priorityBefore p.leaf p.path b.previous
      else Priority.none
    let behind := if outside && p.isMark "," then Priority.comma else Priority.none
    let p :=
      { p with
        depth := b.depth
        opening := if p.closes then opening.map (·.2.2) else none
        priority := behind }
    let b := { b with pending, previous := some p.leaf }
    let b :=
      match closing? p.leaf.text with
      | some close =>
        if p.opens then
          { b with depth := b.depth + 1, pending := (b.depth, close, p.id) :: b.pending }
        else b
      | none => b
    (p, b.enterVariables p, before)

end Brackets

/-! ## Putting pieces on a line -/

/-- How lines are written. -/
structure LineStyle where
  /-- The greatest width of a line that could be broken. -/
  lineLength : Int
  /-- Strings have the preferred quotes. -/
  normalizesStrings : Bool
  /-- A comma in front of a closing bracket asks for one item per line. -/
  heedsCommas : Bool
  /-- The least minor version of the language that has to read the lines. -/
  minor : Nat

/-- Between an opening and a closing bracket among some pieces there is one item with a comma, as in
a tuple of one. The arguments of a call are never a tuple. -/
def isOneSequence (opening : Nat) (close : Piece) (pieces : List Piece) : Bool :=
  let inner := (pieces.dropWhile fun p => p.id ≠ opening || !p.opens).drop 1
  let inner := inner.takeWhile fun p => p.id ≠ close.id || !p.closes
  let commas := inner.filter fun p => p.isMark "," && p.depth = close.depth + 1
  commas.length < 2 && !commas.any fun p => p.path.isInAny [.arguments, .typedParameters]

/-- A line while pieces are put on it, the last one first, and its brackets. -/
structure LineDraft where
  line : Line
  brackets : Brackets := {}

namespace LineDraft

def start (depth : Nat) (inside : Bool) : LineDraft := ⟨{ depth, inside }, {}⟩

def finish (d : LineDraft) : Line := { d.line with pieces := d.line.pieces.reverse }

/-- A comma stands in front of a closing bracket that asks for one item per line: it ends no tuple of
one and no subscript of one. -/
def asksForLines (d : LineDraft) (close : Piece) : Bool :=
  match d.line.pieces with
  | [] => false
  | comma :: _ =>
    let isOne := close.opening.any fun opening =>
      isOneSequence opening close d.line.pieces.reverse
    if !comma.isMark "," then false
    else if close.isMark "\x7d" then true
    else if close.isMark "]" then
      !(close.path.isIn .trailer && isOne) && !comma.path.isEmpty &&
        !(comma.path.isIn .subscripts && isOne)
    else close.isMark ")" && (d.finish.isImport || (close.opening.isSome && !isOne))

/-- The line without its last piece, whose comments go to the one before. -/
def dropLast (d : LineDraft) : LineDraft :=
  match d.line.pieces with
  | last :: p :: rest =>
    let p := { p with comments := p.comments ++ last.comments }
    { d with line := { d.line with pieces := p :: rest } }
  | _ => d

/-- The line is the name of a class and an empty pair of parentheses. -/
def isEmptyClass (d : LineDraft) : Bool :=
  match d.line.pieces with
  | [closing, opening, _, first] =>
    first.isWord "class" && opening.isMark "(" && closing.isMark ")" && !opening.leaf.hidden
  | _ => false

/-- A piece as it stands on the line: the first one has no space in front. -/
def placed (d : LineDraft) (p : Piece) : Piece :=
  { p with spaced := p.spaced && !d.line.pieces.isEmpty }

/-- Puts a piece on the line and follows its brackets. A comma that would ask for one item per line
goes if such commas are not heeded. -/
def pushFollowed (heeded : Bool) (shown : Shown) (d : LineDraft) (p : Piece) : LineDraft :=
  let (p, brackets, before) := d.brackets.follow (d.placed p)
  let pieces :=
    match d.line.pieces with
    | [] => []
    | previous :: rest => { previous with priority := max previous.priority before } :: rest
  let isBracket := p.opens || p.closes
  let invisible :=
    if isBracket && !p.isSeen shown then p.id :: d.line.invisible else d.line.invisible
  let d : LineDraft := ⟨{ d.line with pieces, invisible }, brackets⟩
  let asks := p.closes && d.asksForLines p
  let d := if asks && !heeded then d.dropLast else d
  let exploded := d.line.exploded || (asks && heeded)
  { d with line := { d.line with pieces := p :: d.line.pieces, exploded } }

/-- Puts a piece on the line without following brackets. -/
def pushPlain (d : LineDraft) (p : Piece) : LineDraft :=
  let p := { d.placed p with priority := Priority.none }
  { d with line := { d.line with pieces := p :: d.line.pieces } }

/-- Puts a comment on the line: behind its last piece, or behind the one before if the last one is a
parenthesis hidden around a single leaf. Without a piece to stand behind it is one itself. -/
def pushComment (d : LineDraft) (comment : Text) : LineDraft :=
  let alone : LineDraft :=
    { d with line := { d.line with pieces := .ofComment comment :: d.line.pieces } }
  let attach (p : Piece) : Piece := { p with comments := p.comments ++ [comment] }
  match d.line.pieces with
  | [] => alone
  | last :: rest =>
    let isWrapped := last.isMark ")" && last.leaf.hidden && !last.path.isEmpty &&
      last.familySize ≤ 3 && !isTypeComment comment
    if isWrapped then
      match rest with
      | [] => alone
      | p :: others => { d with line := { d.line with pieces := last :: attach p :: others } }
    else { d with line := { d.line with pieces := attach last :: rest } }

end LineDraft

end RecordGen.Source
