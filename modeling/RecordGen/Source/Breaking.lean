import RecordGen.Source.Hugging
import RecordGen.Source.Omission

/-!
# Breaking lines

A line that is too long, or that asks for it, is broken into several, which are broken in turn. Hidden
parentheses at which a line is broken are shown, and stay so even if the attempt comes to nothing.
-/

namespace RecordGen.Source

/-- What the attempts so far have done to the pieces. -/
structure Progress where
  shown : Shown := []
  /-- The pieces of lines that have been tried in two ways. -/
  retried : List Nat := []

/-- An attempt to break a line, which can fail. What it has done stays. -/
abbrev Breaking (α : Type) := OptionT (StateM Progress) α

namespace Breaking

/-- The hidden parentheses that are shown. -/
def shown : Breaking Shown := return (← get).shown

/-- Shows hidden parentheses. -/
def reveal (pieces : List Piece) : Breaking Unit :=
  modify fun progress => { progress with shown := pieces.map Piece.id ++ progress.shown }

def restore (shown : Shown) : Breaking Unit := modify fun progress => { progress with shown }

/-- Marks the pieces of a line that is tried in a second way. -/
def retry (line : Line) : Breaking Unit :=
  modify fun progress => { progress with retried := line.pieces.map Piece.id ++ progress.retried }

/-- The result of an attempt, or nothing if it fails. -/
def optional {α : Type} (b : Breaking α) : Breaking (Option α) := fun progress =>
  let (result, progress) := b.run.run progress
  (some result, progress)

end Breaking

/-! ## Splitting at the last brackets -/

/-- The piece is a hidden parenthesis that is not shown. -/
def Piece.isUnseenParenthesis (shown : Shown) (p : Piece) : Bool :=
  !p.isSeen shown && (p.isMark "(" || p.isMark ")")

/-- The lines of a split, its parentheses shown. -/
def linesOf (s : Split) : Breaking (List Line) := do
  Breaking.reveal ([s.opening, s.closing].filter (·.leaf.hidden))
  return [s.head, s.body, s.tail].filter fun line => !line.pieces.isEmpty

/-- What is in hidden parentheses can stand in them if the line cannot be split without: it can be
split itself, or it fits. -/
def fitsInParentheses (style : LineStyle) (shown : Shown) (body : Line) : Bool :=
  let canBeSplit :=
    match body.pieces with
    | first :: second :: _ => !(first.leaf.kind = .string && second.isMark ".")
    | _ => false
  canBeSplit || body.fits style.lineLength shown

/-- The lines of a split at the last brackets. Hidden parentheses are left out for brackets in front
of them, unless that is forbidden, if this is possible and better. -/
def linesOfLast (style : LineStyle) (force : Bool) (line : Line) :
    (fuel : Nat) → (omitted : List Nat) → Split → Breaking (List Line)
  | 0, _, _ => failure
  | fuel + 1, omitted, s => do
    let shown ← Breaking.shown
    let isHidden :=
      s.opening.isUnseenParenthesis shown && s.closing.isUnseenParenthesis shown
    if force || !isHidden || line.isImport || !canLeaveOut style shown s then linesOf s
    else
      let omitted := s.closing.id :: omitted
      let without := splitRight? style shown line omitted
      if without.any fun other => !isBetterWithout style shown s other then linesOf s
      else
        let attempt : Breaking (List Line) :=
          match without with
          | some other => linesOfLast style force line fuel omitted other
          | none => failure
        match ← attempt.optional with
        | some lines => return lines
        | none =>
          if line.isChainedAssignment then linesOf s
          else
            let shown ← Breaking.shown
            let isMultiline := s.head.hasMultilineString || s.tail.hasMultilineString
            if fitsInParentheses style shown s.body && !isMultiline then linesOf s else failure

/-- The lines of a split at the last brackets that are not left out. -/
def linesLeavingOut (style : LineStyle) (force : Bool) (line : Line) (omitted : List Nat) :
    Breaking (List Line) := do
  match splitRight? style (← Breaking.shown) line omitted with
  | some s => linesOfLast style force line (line.pieces.length + 1) omitted s
  | none => failure

/-- The lines of the first split at last brackets whose first line fits, as more and more brackets are
left out. If there is none, no brackets are left out. -/
def linesOfWalk (style : LineStyle) (force : Bool) (line : Line) :
    (fuel : Nat) → OmissionWalk → Breaking (List Line)
  | 0, _ => linesLeavingOut style force line []
  | fuel + 1, walk => do
    let lines ← linesLeavingOut style force line walk.omitted
    let shown ← Breaking.shown
    if lines.head?.any (·.fits style.lineLength shown) then return lines
    else
      match walk.advance? style shown line (line.pieces.length + 1) with
      | some walk => linesOfWalk style force line fuel walk
      | none => linesLeavingOut style force line []

/-- The lines of a split at the last brackets that suit. -/
def linesFromRight (style : LineStyle) (force : Bool) (line : Line) : Breaking (List Line) := do
  let walk := OmissionWalk.start line
  let fuel := line.pieces.length + 1
  if line.exploded then
    match walk.advance? style (← Breaking.shown) line fuel with
    | some walk => linesOfWalk style force line fuel walk
    | none => linesLeavingOut style force line []
  else linesOfWalk style force line fuel walk

/-! ## Breaking a line -/

/-- A way to break a line. -/
inductive Way where
  | fromLeft
  | fromRight
  | atPriority
  | atComments
deriving DecidableEq

def linesBy (style : LineStyle) (force : Bool) (line : Line) : Way → Breaking (List Line)
  | .fromLeft => do
    match splitLeft? style (← Breaking.shown) line with
    | some s => linesOf s
    | none => failure
  | .fromRight => linesFromRight style force line
  | .atPriority => do liftOption (splitAtPriority? style (← Breaking.shown) line)
  | .atComments => do liftOption (splitAtComments? style (← Breaking.shown) line)
where
  /-- A result that may be missing. -/
  liftOption (lines : Option (List Line)) : Breaking (List Line) :=
    match lines with
    | some lines => return lines
    | none => failure

/-- The ways to break a line, the best first. -/
def waysFor (line : Line) : List Way :=
  if line.isFunction then [.fromLeft]
  else if line.inside then [.atPriority, .atComments, .fromRight]
  else [.fromRight]

/-- A line stays as it is: it fits, or must not be broken, and nothing in it asks for lines of its
own. -/
def staysWhole (style : LineStyle) (shown : Shown) (line : Line) : Bool :=
  line.isComment ||
    (!line.keepsTypesApart shown && !line.forced && !line.exploded &&
      (line.hugged.fits style.lineLength shown || line.endsUnchecked) &&
      !(line.inside && line.hasKept) && !Line.hasCommentedStrings line.pieces)

/-- Breaks some lines, given how to break one. A line that is the whole line again is no result. -/
def breakAll (breakOne : Line → StateM Progress (List Line)) (whole : Text) :
    List Line → Breaking (List Line)
  | [] => return []
  | line :: rest => do
    if line.text (← Breaking.shown) = whole then failure
    else
      let lines ← OptionT.lift (breakOne line)
      return lines ++ (← breakAll breakOne whole rest)

/-- A line put together anew, all its brackets followed. -/
def Line.renewed (style : LineStyle) (shown : Shown) (line : Line) : Line :=
  let push (d : LineDraft) (p : Piece) : LineDraft := d.pushFollowed style.heedsCommas shown p
  let d := line.pieces.foldl push (.start line.depth line.inside)
  let renewed := d.finish
  { renewed with
    forced := line.forced
    exploded := line.exploded || renewed.exploded }

/-- A result of breaking a line at its last brackets is worth a second attempt, in which hidden
parentheses are not left out: there are some, all still hidden, and the first line is too long. -/
def asksForRetry (style : LineStyle) (progress : Progress) (line : Line) (lines : List Line) :
    Bool :=
  let shown := progress.shown
  let isPlain (first : Line) : Bool :=
    first.keepsTypesApart shown || first.endsUnchecked || first.fits style.lineLength shown
  !line.invisible.isEmpty && !line.invisible.any shown.contains && !line.hasMultilineString &&
    !lines.head?.any isPlain &&
    !line.pieces.any fun p => p.path.isEmpty || progress.retried.contains p.id

/-- The lines that a line is broken into in some way, each broken in turn by `recur`. A second attempt
counts if all its lines fit. -/
def breakBy (style : LineStyle) (recur : Bool → Line → StateM Progress (List Line)) (force : Bool)
    (line : Line) (way : Way) : Breaking (List Line) := do
  let whole := line.text (← Breaking.shown)
  let lines ← breakAll (recur force) whole (← linesBy style force line way)
  if force || way ≠ .fromRight || !asksForRetry style (← get) line lines then return lines
  else
    let shown ← Breaking.shown
    Breaking.retry line
    let renewed := line.renewed style shown
    let second ← Breaking.optional do
      breakAll (recur true) whole (← linesBy style true renewed way)
    let shownThen ← Breaking.shown
    match second with
    | some second =>
      if second.all fun line => line.fits style.lineLength shownThen then return second
      else
        Breaking.restore shown
        return lines
    | none =>
      Breaking.restore shown
      failure

/-- The lines that a line is broken into by the first way that leads to a result. -/
def breakByFirst (style : LineStyle) (recur : Bool → Line → StateM Progress (List Line))
    (force : Bool) (line : Line) : List Way → StateM Progress (List Line)
  | [] => return [line.hugged]
  | way :: rest => do
    match ← (breakBy style recur force line way).run with
    | some lines => return lines
    | none => breakByFirst style recur force line rest

/-- The lines that a line is broken into. With `force`, hidden parentheses are not left out. -/
def breakLine (style : LineStyle) : (fuel : Nat) → (force : Bool) → Line →
    StateM Progress (List Line)
  | 0, _, line => return [line]
  | fuel + 1, force, line => do
    if staysWhole style (← get).shown line then return [line.hugged]
    else breakByFirst style (breakLine style fuel) force line (waysFor line)

def Line.broken (style : LineStyle) (line : Line) : List Text :=
  let (lines, progress) := (breakLine style (2 * line.pieces.length + 8) false line).run {}
  lines.map (Line.text progress.shown)

end RecordGen.Source
