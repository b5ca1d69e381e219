import RecordGen.Source.Line

/-!
# Splitting lines

The ways to split a line in several: at a pair of brackets, into what stands in front, inside and
behind; at all places of the best priority; and at the comments that stand on lines of their own.
-/

namespace RecordGen.Source

/-! ## Priorities of a line -/

namespace Line

/-- The best priority of a place behind a piece. -/
def bestPriority (pieces : List Piece) : Nat :=
  pieces.foldl (fun best p => max best p.priority) Priority.none

/-- How many places have a priority. -/
def countPriority (priority : Nat) (pieces : List Piece) : Nat :=
  (pieces.filter (·.priority = priority)).length

end Line

/-! ## The parts of a split -/

/-- A line split at a pair of brackets, which stay with the outer parts. -/
structure Split where
  head : Line
  body : Line
  tail : Line
  opening : Piece
  closing : Piece

/-- The positions of matching brackets among some pieces, up to the first closing bracket that has no
partner. `stack` holds the open brackets: what closes them, and their positions. -/
def matchingRanges (position : Nat) (stack : List (Text × Nat)) : List Piece → List (Nat × Nat)
  | [] => []
  | p :: rest =>
    if p.closes then
      match stack with
      | (close, start) :: others =>
        if p.leaf.text = close then
          (start, position) :: matchingRanges (position + 1) others rest
        else []
      | [] => []
    else
      let stack :=
        match closing? p.leaf.text with
        | some close => if p.opens then (close, position) :: stack else stack
        | none => stack
      matchingRanges (position + 1) stack rest

/-- Which of some pieces are in matching brackets, or are such brackets. -/
def inMatching (pieces : List Piece) : List Bool :=
  let skipped := (pieces.takeWhile fun p => !p.opens).length
  let ranges := matchingRanges skipped [] (pieces.drop skipped)
  (List.range pieces.length).map fun i => ranges.any fun (start, stop) => start ≤ i && i ≤ stop

/-- What stands in front of the brackets: only the pieces in matching brackets are followed. -/
def headLine (style : LineStyle) (shown : Shown) (depth : Nat) (pieces : List Piece) : Line :=
  let push (d : LineDraft) (p : Piece × Bool) : LineDraft :=
    if p.2 then d.pushFollowed style.heedsCommas shown p.1 else d.pushPlain p.1
  ((pieces.zip (inMatching pieces)).foldl push (.start depth false)).finish

/-- What stands behind the brackets: no piece is followed. -/
def tailLine (depth : Nat) (pieces : List Piece) : Line :=
  (pieces.foldl LineDraft.pushPlain (.start depth false)).finish

/-- The place is in the type of a parameter or of a result. -/
def isInType (path : Path) : Bool :=
  (path.drop 1).any fun frame => frame.kind = .typedName || frame.before.head?.any (·.isMark "->")

/-- Some pieces with a comma behind the last one that is no comment, unless it is one. -/
def withTrailingComma (pieces : List Piece) : List Piece :=
  let comments := (pieces.reverse.takeWhile Piece.isKept).reverse
  let items := pieces.take (pieces.length - comments.length)
  if items.isEmpty || items.getLast?.any (·.isMark ",") then pieces
  else items ++ .comma :: comments

/-- The inside of the brackets of a line ends with a comma: the names of an import do, and the
parameters of a function that has no comma apart from those in types. -/
def takesComma (original : Line) (opening : Piece) (pieces : List Piece) : Bool :=
  original.isImport ||
    (original.isFunction && opening.path.isIn .parameters &&
      !pieces.any fun p => p.isMark "," && !isInType p.path)

/-- The inside of brackets is to be split at its commas: there are several items, and the last one has
a comma that asks for it, or they make a display or an import. -/
def isForced (style : LineStyle) (opening : Piece) (pieces : List Piece) : Bool :=
  let commaEnds := pieces.getLast?.any (·.isMark ",")
  let counted := if commaEnds then pieces.dropLast else pieces
  !opening.path.isEmpty && Line.bestPriority counted = Priority.comma &&
    ((style.heedsCommas && commaEnds) || opening.path.isInAny [.atom, .importFrom])

/-- What stands inside the brackets, one step deeper. -/
def bodyLine (style : LineStyle) (shown : Shown) (original : Line) (opening : Piece)
    (pieces : List Piece) : Line :=
  let pieces := if takesComma original opening pieces then withTrailingComma pieces else pieces
  let line :=
    (pieces.foldl (LineDraft.pushFollowed style.heedsCommas shown)
      (.start (original.depth + 1) true)).finish
  { line with forced := isForced style opening line.pieces }

def splitAround (style : LineStyle) (shown : Shown) (original : Line)
    (head : List Piece) (opening : Piece) (body : List Piece) (closing : Piece)
    (tail : List Piece) : Split :=
  { head := headLine style shown original.depth (head ++ [opening])
    body := bodyLine style shown original opening body
    tail := tailLine original.depth (closing :: tail)
    opening
    closing }

/-! ## Choosing the brackets -/

/-- The piece is the opening bracket of a closing one. -/
def opensFor (closing p : Piece) : Bool := p.opens && closing.opening = some p.id

/-- The line split at its last pair of brackets that has something inside and whose closing bracket is
not left out. `before` are the pieces up to the place of the search, the last one first. -/
def splitRightFrom (style : LineStyle) (shown : Shown) (line : Line) (omitted : List Nat) :
    (fuel : Nat) → (tail : List Piece) → (before : List Piece) → Option Split
  | 0, _, _ => none
  | _, _, [] => none
  | fuel + 1, tail, closing :: before =>
    if closing.closes && !omitted.contains closing.id then
      let body := before.takeWhile fun p => !opensFor closing p
      match body, before.drop body.length with
      | [], opening :: rest =>
        splitRightFrom style shown line omitted fuel (opening :: closing :: tail) rest
      | _, [] => none
      | _, opening :: rest =>
        some (splitAround style shown line rest.reverse opening body.reverse closing tail)
    else splitRightFrom style shown line omitted fuel (closing :: tail) before

/-- The line split at its last pair of brackets, without those that are left out. -/
def splitRight? (style : LineStyle) (shown : Shown) (line : Line) (omitted : List Nat) :
    Option Split :=
  splitRightFrom style shown line omitted (line.pieces.length + 1) [] line.pieces.reverse

/-- The line split at its first pair of parentheses that has something inside. `before` are the pieces
in front of the place of the search, the last one first. -/
def splitLeftFrom (style : LineStyle) (shown : Shown) (line : Line) :
    (fuel : Nat) → (before : List Piece) → List Piece → Option Split
  | 0, _, _ => none
  | _, _, [] => none
  | fuel + 1, before, opening :: rest =>
    if opening.opens && opening.isMark "(" then
      let closesIt (p : Piece) : Bool := p.closes && p.opening = some opening.id
      let body := rest.takeWhile fun p => !closesIt p
      match body, rest.drop body.length with
      | [], closing :: tail =>
        splitLeftFrom style shown line fuel (closing :: opening :: before) tail
      | _, [] => none
      | _, closing :: tail =>
        some (splitAround style shown line before.reverse opening body closing tail)
    else splitLeftFrom style shown line fuel (opening :: before) rest

/-- The line split at its first pair of parentheses. -/
def splitLeft? (style : LineStyle) (shown : Shown) (line : Line) : Option Split :=
  splitLeftFrom style shown line (line.pieces.length + 1) [] line.pieces

/-! ## Splitting at priorities -/

/-- The lines that have been made of a line, the last one first, and the one that is being made. -/
structure LineCutter where
  lines : List Line := []
  draft : LineDraft

namespace LineCutter

/-- Starts to make lines of a line. -/
def start (line : Line) : LineCutter := ⟨[], .start line.depth line.inside⟩

/-- Ends the line that is being made. -/
def cut (c : LineCutter) : LineCutter :=
  let line := c.draft.finish
  ⟨line :: c.lines, .start line.depth line.inside⟩

/-- The line that is being made is in no brackets. -/
def isOutside (c : LineCutter) : Bool :=
  c.draft.brackets.depth = 0 || c.draft.brackets.inVariables

/-- Nothing can follow on the line that is being made: it is a comment. -/
def isClosed (c : LineCutter) : Bool := c.isOutside && c.draft.finish.isComment

/-- Puts a piece on the line, or on a new one where a comment has to stand alone. -/
def push (style : LineStyle) (shown : Shown) (c : LineCutter) (p : Piece) : LineCutter :=
  let standsAlone := c.isOutside && p.isKept && !c.draft.line.pieces.isEmpty
  let c := if c.isClosed || standsAlone then c.cut else c
  { c with draft := c.draft.pushFollowed style.heedsCommas shown { p with comments := [] } }

/-- Puts the comments of a piece behind what is on the line. -/
def pushComments (c : LineCutter) (p : Piece) : LineCutter :=
  p.comments.foldl (fun c comment =>
    let c := if c.isClosed then c.cut else c
    { c with draft := c.draft.pushComment comment }) c

/-- Puts a comma at the end of the line. -/
def pushComma (style : LineStyle) (shown : Shown) (c : LineCutter) : LineCutter :=
  { c with draft := c.draft.pushFollowed style.heedsCommas shown .comma }

/-- The lines that have been made. -/
def finish (c : LineCutter) : List Line :=
  let c := if c.draft.line.pieces.isEmpty then c else c.cut
  c.lines.reverse

end LineCutter

/-- A comma may be put behind an item of a list that has a piece: stars in it need a version that
reads such commas. -/
def allowsComma (minor : Nat) (p : Piece) : Bool :=
  if isUnpacking p.leaf p.path [.typedParameters] then 6 ≤ minor
  else if isUnpacking p.leaf p.path [.arguments, .argument] then 5 ≤ minor
  else true

/-- What a split at a priority goes by. -/
structure Cut where
  style : LineStyle
  shown : Shown
  priority : Nat
  /-- The last piece of the line. -/
  last : Piece

namespace Cut

/-- Comments stay with the item in front of them, which is so at commas and between strings; else a
comment behind the first piece of a new line goes to the line before. -/
def keepsComments (cut : Cut) : Bool :=
  cut.priority = Priority.comma || cut.priority = Priority.string

/-- Cuts pieces into lines. `previous` is the priority behind the piece in front, `lowest` the least
depth so far, and `safe` tells whether a comma may be put at the end. -/
def run (cut : Cut) (c : LineCutter) (previous : Option Nat) (lowest : Option Nat) (safe : Bool) :
    List Piece → LineCutter
  | [] =>
    let ends := safe && cut.priority = Priority.comma && !c.draft.line.pieces.isEmpty &&
      !cut.last.isMark "," && !cut.last.isKept
    if ends then c.pushComma cut.style cut.shown else c
  | p :: rest =>
    let c := c.push cut.style cut.shown p
    let c :=
      if previous ≠ some cut.priority || cut.keepsComments then c.pushComments p else c
    let depth := min p.depth (lowest.getD p.depth)
    let safe := safe && (p.depth ≠ depth || allowsComma cut.style.minor p)
    let isLastItem := cut.last.isKept && !p.isKept && previous.isSome && rest.all Piece.isKept
    let takes := isLastItem && safe && cut.priority = Priority.comma &&
      c.draft.line.pieces.head?.any fun p => !p.isMark "," && !p.isKept
    let c := if takes then c.pushComma cut.style cut.shown else c
    let c :=
      if p.priority ≠ cut.priority then c
      else
        match rest with
        | next :: _ => (if cut.keepsComments then c else c.pushComments next).cut
        | [] => c.cut
    run cut c (some p.priority) (some depth) safe rest

end Cut

/-- The line split at all its places of the best priority. A single attribute stays. -/
def splitAtPriority? (style : LineStyle) (shown : Shown) (line : Line) : Option (List Line) :=
  let priority := Line.bestPriority line.pieces.dropLast
  match line.pieces.getLast? with
  | none => none
  | some last =>
    if priority = Priority.none then none
    else if priority = Priority.dot && Line.countPriority priority line.pieces = 1 then none
    else
      let cut : Cut := ⟨style, shown, priority, last⟩
      some (cut.run (.start line) none none true line.pieces).finish

/-- The line split at its comments that stand on lines of their own. -/
def splitAtComments? (style : LineStyle) (shown : Shown) (line : Line) : Option (List Line) :=
  if line.hasKept then
    let push (c : LineCutter) (p : Piece) : LineCutter := (c.push style shown p).pushComments p
    some (line.pieces.foldl push (.start line)).finish
  else none

end RecordGen.Source
