import RecordGen.Source.Split

/-!
# Leaving brackets out

When a line is split at its last brackets, brackets further in front may make a better split. Hidden
parentheses are left out if what is inside of them can be split well without them.
-/

namespace RecordGen.Source

/-! ## Lengths -/

/-- How many code points a piece takes, its space and its comments included. A piece over several lines
has no length. -/
def Piece.length? (shown : Shown) (p : Piece) : Option Nat :=
  let t := p.text shown
  if t.contains CodePoint.lineFeed then none
  else
    let comments := p.comments.foldl (fun n comment => n + comment.length) 0
    some (t.length + (if p.spaced then 1 else 0) + comments)

/-! ## Hidden parentheses -/

/-- A comment on a line of its own is in some pieces, the last one first, and in no brackets among them
that are seen. `around` is the opening bracket of the brackets that the place is in. -/
def hasBareComment (shown : Shown) (ids : List Nat) (around : Option Nat) : List Piece → Bool
  | [] => false
  | p :: rest =>
    let around := if around = some p.id then none else around
    if around.isSome then hasBareComment shown ids around rest
    else if p.isKept then true
    else
      let opening := if p.closes && p.isSeen shown then p.opening else none
      hasBareComment shown ids (opening.filter ids.contains) rest

/-- The brackets that a line starts with can be split further: what follows them fits into the line, or
has other brackets. -/
def opensWell (lineLength : Int) (shown : Shown) (opening : Nat) :
    (length : Nat) → (behind : Bool) → List Piece → Bool
  | _, _, [] => true
  | length, behind, p :: rest =>
    match p.length? shown with
    | none => false
    | some own =>
      let behind := behind || (p.closes && p.opening = some opening)
      let length := if behind then length + own else length
      if behind && lineLength < ((length : Nat) : Int) then false
      else opensWell lineLength shown opening length (behind && !p.opens) rest

/-- The brackets that a line ends with can be split further: what stands in front of them fits into the
line, or has other brackets. -/
def closesWell (lineLength : Int) (shown : Shown) (opening : Option Nat) :
    (length : Nat) → (others : Bool) → List Piece → Bool
  | _, _, [] => false
  | length, others, p :: rest =>
    match p.length? shown with
    | none => false
    | some own =>
      let length := length + own
      if p.opens && some p.id = opening then
        others || ((length : Nat) : Int) ≤ lineLength ||
          closesWell lineLength shown opening length others rest
      else closesWell lineLength shown opening length (others || p.opens) rest

/-- The brackets at the end of the inside of hidden parentheses are a good place to split it. -/
def endsWithBrackets (lineLength : Int) (shown : Shown) (body : Line) : Bool :=
  match body.pieces.reverse with
  | last :: penultimate :: _ =>
    let isSubscript := last.isMark "]" && (last.path.isEmpty || last.path.isIn .trailer)
    last.closes && !isSubscript && !penultimate.opens &&
      (body.pieces.head?.any Piece.isMultilineString ||
        closesWell lineLength shown last.opening (4 * body.depth) false body.pieces)
  | _ => false

/-- The brackets at the start of the inside of hidden parentheses are empty, and a good place to go on
behind. -/
def startsWithBrackets (lineLength : Int) (shown : Shown) (body : Line) : Bool :=
  match body.pieces with
  | first :: second :: _ =>
    first.opens && second.closes &&
      opensWell lineLength shown first.id (4 * body.depth) false body.pieces
  | _ => false

/-- The hidden parentheses of a split can be left out. -/
def canLeaveOut (style : LineStyle) (shown : Shown) (s : Split) : Bool :=
  let pieces := s.body.pieces
  let best := Line.bestPriority pieces
  let count := Line.countPriority best pieces
  if hasBareComment shown (pieces.map Piece.id) none pieces.reverse then false
  else if best = Priority.none then true
  else if 1 < count then false
  else if best = Priority.comma && s.head.isWithBlock then false
  else if best = Priority.dot then true
  else
    startsWithBrackets style.lineLength shown s.body ||
      endsWithBrackets style.lineLength shown s.body

/-- Pieces have a closing bracket behind their last sign of an assignment. -/
def closesBehindAssignment (pieces : List Piece) : Bool :=
  (pieces.reverse.takeWhile fun p => !p.isMark "=").any Piece.closes

/-- How many signs of an assignment pieces have. -/
def countAssignments (pieces : List Piece) : Nat := (pieces.filter (·.isMark "=")).length

/-- A split without the hidden parentheses of another one is better than that. -/
def isBetterWithout (style : LineStyle) (shown : Shown) (s without : Split) : Bool :=
  let head := s.head.pieces
  let followsSign := (head.reverse.drop 1).head?.any (·.isMark "=")
  if without.head.endsUnchecked || without.body.endsUnchecked || without.tail.endsUnchecked then true
  else if !followsSign || !head.dropLast.any fun p => p.opens || p.closes then true
  else if !s.head.fits (style.lineLength - 1) shown || s.head.exploded then true
  else
    let own := countAssignments head
    let other := countAssignments without.head.pieces
    if 1 < own && other < own then false
    else
      closesBehindAssignment without.head.pieces ||
        (0 < other && without.head.fits style.lineLength shown)

/-! ## Brackets that are left out one by one -/

/-- A walk over a line from its end that leaves out one closing bracket after the other. -/
structure OmissionWalk where
  /-- The pieces that are to come, the last one first. -/
  before : List Piece
  length : Nat
  omitted : List Nat := []
  /-- The closing brackets that go with the next one. -/
  inner : List Nat := []
  /-- The last closing bracket outside of others, and the opening one while the walk is inside. -/
  closing : Option Nat := none
  opening : Option Nat := none
  /-- The closing bracket whose brackets come next. -/
  next : Option Piece := none

namespace OmissionWalk

def start (line : Line) : OmissionWalk := { before := line.pieces.reverse, length := 4 * line.depth }

/-- A comma in front of a closing bracket asks for one item per line. -/
def isExplodedBy (line : Line) (closing : Piece) (before : List Piece) : Bool :=
  before.head?.any (·.isMark ",") &&
    closing.opening.any fun opening => !isOneSequence opening closing line.pieces

/-- Enters the brackets that come next, if they are seen. -/
def enter (shown : Shown) (w : OmissionWalk) : OmissionWalk :=
  match w.next with
  | some closing =>
    if closing.isSeen shown then
      { w with next := none, closing := some closing.id, opening := closing.opening }
    else { w with next := none }
  | none => w

/-- The walk with further closing brackets left out, if there are any. -/
def advance? (style : LineStyle) (shown : Shown) (line : Line) :
    (fuel : Nat) → OmissionWalk → Option OmissionWalk
  | 0, _ => none
  | fuel + 1, w =>
    let w := w.enter shown
    match w.before with
    | [] => none
    | p :: before =>
      match p.length? shown with
      | none => none
      | some own =>
        let w := { w with before, length := w.length + own }
        let skipped : OmissionWalk := { w with inner := p.id :: w.inner }
        if style.lineLength < ((w.length : Nat) : Int) then none
        else if w.opening.isSome then
          if some p.id = w.opening then advance? style shown line fuel { w with opening := none }
          else advance? style shown line fuel (if p.closes then skipped else w)
        else if !p.closes then advance? style shown line fuel w
        else if before.head?.any Piece.opens then advance? style shown line fuel skipped
        else
          let stops := isExplodedBy line p before
          let onward : OmissionWalk := if stops then { w with before := [] } else { w with next := p }
          match w.closing with
          | some closing =>
            some { onward with omitted := closing :: w.inner ++ w.omitted, inner := [] }
          | none => advance? style shown line fuel onward

end OmissionWalk

end RecordGen.Source
