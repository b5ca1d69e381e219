import RecordGen.Unicode.Blank
import RecordGen.Source.Scan

/-!
# Comments

The comments in the lead of a leaf, in their canonical spelling, and what remains of the lead behind
them. Some comments are directives: they keep the layout of the code near them.
-/

namespace RecordGen.Source

/-- A text without blanks at its end. -/
def trimEnd (t : Text) : Text := (t.reverse.dropWhile Unicode.isBlank).reverse

/-- A text without blanks at its start. -/
def trimStart (t : Text) : Text := t.dropWhile Unicode.isBlank

/-- A text without blanks at both ends. -/
def trimmed (t : Text) : Text := trimEnd (trimStart t)

/-! ## Spelling -/

/-- What stands before the type in a comment that tells one. -/
def typeMark : Text := .ofString "type:"

/-- The space that does not break lines. -/
def fixedSpace : CodePoint := CodePoint.ofNat 0xA0

/-- What may follow the mark of a comment as it is. -/
def commentStarts : Text := CodePoint.space :: Text.ofString "!:#'"

/-- What follows the mark of a comment, in its canonical spelling: a type has one space on both sides
of its mark, a fixed space in front becomes a plain one, and other text starts with a space. -/
def commentBody (t : Text) : Text :=
  let t :=
    match t with
    | c :: rest =>
      if c = fixedSpace && !typeMark.isPrefixOf (trimStart t) then CodePoint.space :: rest else t
    | [] => []
  let t :=
    if !t.contains fixedSpace && typeMark.isPrefixOf (trimStart t) then
      typeMark ++ CodePoint.space :: trimmed ((trimStart t).drop typeMark.length)
    else t
  match t with
  | c :: _ => if commentStarts.contains c then t else CodePoint.space :: t
  | [] => []

/-- A comment in its canonical spelling, without blanks at its end. -/
def commentText (t : Text) : Text := commentMark :: commentBody ((trimEnd t).drop 1)

/-! ## Directives -/

/-- The comments that switch the layout off. -/
def offDirectives : List Text :=
  ["# fmt: off", "# fmt:off", "# yapf: disable"].map Text.ofString

/-- The comments that switch the layout on again. -/
def onDirectives : List Text := ["# fmt: on", "# fmt:on", "# yapf: enable"].map Text.ofString

/-- The comments that keep the layout of their line. -/
def skipDirectives : List Text := ["# fmt: skip", "# fmt:skip"].map Text.ofString

/-- The pieces of a text between the occurrences of two code points in a row. -/
def piecesBetween (first second : CodePoint) : Text → List Text
  | [] => [[]]
  | [c] => [[c]]
  | c :: d :: rest =>
    if c = first && d = second then [] :: piecesBetween first second rest
    else
      match piecesBetween first second (d :: rest) with
      | [] => [[c]]
      | piece :: others => (c :: piece) :: others

/-- A comment keeps the layout of its line: it is a directive to do so, or one of the parts between
its marks or its semicolons is. -/
def isSkipComment (t : Text) : Bool :=
  let whole (part : Text) : Text := commentMark :: CodePoint.space :: trimmed part
  let isMarking (c : CodePoint) : Bool := c = commentMark || c = CodePoint.space
  let marked := ((piecesBetween commentMark CodePoint.space t).drop 1).map whole
  let listed := ((t.trim isMarking).pieces (CodePoint.ofChar ';')).map whole
  (t :: marked ++ listed).any skipDirectives.contains

def isTypeComment (t : Text) : Bool := (Text.ofString "# type:").isPrefixOf t

/-- A comment tells that types are not to be checked. -/
def isTypeIgnore (t : Text) : Bool := (Text.ofString "# type: ignore").isPrefixOf t

/-! ## Comments of a lead -/

structure Comment where
  /-- The canonical spelling. -/
  text : Text
  /-- The comment stands on the line of the leaf in front of it. -/
  trails : Bool
  /-- The empty lines in front of it. -/
  blanks : Nat
  /-- One of the empty lines holds a form feed. -/
  formFeed : Bool
  /-- How much of the lead it ends, its line end included. -/
  extent : Nat
  /-- The gaps in front of it on its line. -/
  gaps : Text
deriving DecidableEq, Repr

/-- What has been read of a lead, line by line. -/
structure LeadState where
  index : Nat := 0
  /-- The lines that go on behind a backslash. -/
  joined : Nat := 0
  extent : Nat := 0
  blanks : Nat := 0
  formFeed : Bool := false

def commentsFrom (atEnd : Bool) (s : LeadState) : List Text → List Comment
  | [] => []
  | line :: rest =>
    let gaps := line.takeWhile isGap
    let content := line.drop gaps.length
    let extent := s.extent + line.length + 1
    let next := { s with index := s.index + 1, extent }
    match content with
    | [] =>
      let formFeed := s.formFeed || line.contains CodePoint.formFeed
      commentsFrom atEnd { next with blanks := s.blanks + 1, formFeed } rest
    | c :: _ =>
      if c = commentMark then
        ⟨commentText content, s.index = s.joined && !atEnd, s.blanks, s.formFeed, extent, gaps⟩ ::
          commentsFrom atEnd { next with blanks := 0, formFeed := false } rest
      else if content.getLast? = some backslash then
        commentsFrom atEnd { next with joined := s.joined + 1 } rest
      else commentsFrom atEnd next rest

/-- The comments of a lead, given whether the text ends behind it. -/
def leadComments (atEnd : Bool) (lead : Text) : List Comment :=
  if lead.contains commentMark then commentsFrom atEnd {} (lead.pieces CodePoint.lineFeed) else []

/-- The empty lines at the end of a lead, behind its comments, and whether the last of them come with
a form feed. Lines that go on behind a backslash do not count. -/
def leadBlanks (comments : List Comment) (lead : Text) : Nat × Bool :=
  let rest := lead.drop ((comments.getLast?.map Comment.extent).getD 0)
  if rest.contains backslash then (0, false)
  else
    ((rest.filter (· = CodePoint.lineFeed)).length,
      rest.contains CodePoint.formFeed && rest.getLast? = some CodePoint.lineFeed)

end RecordGen.Source
