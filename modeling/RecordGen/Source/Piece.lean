import RecordGen.Source.Comment
import RecordGen.Source.Spacing

/-!
# Pieces of a line

A leaf on a line, with its place in the tree, the comments behind it, and what the brackets of the
line make of it: how deep it is, and how well the line can be broken behind it.
-/

namespace RecordGen.Source

/-! ## Priorities -/

namespace Priority

/-- In front of the loops and filters of a comprehension. -/
def comprehension : Nat := 20

/-- Behind a comma. -/
def comma : Nat := 18

/-- In front of the words of a choice between expressions. -/
def ternary : Nat := 16

/-- In front of `and` and `or`. -/
def logic : Nat := 14

/-- Between strings. -/
def string : Nat := 12

/-- In front of the sign of a comparison. -/
def comparator : Nat := 10

/-- In front of an operator on numbers or sets: the weaker the operator, the better. -/
def ofOperator? (t : Text) : Option Nat :=
  let among (marks : List String) : Bool := marks.any fun s => t = Text.ofString s
  if among ["|"] then some 9
  else if among ["^"] then some 8
  else if among ["&"] then some 7
  else if among ["<<", ">>"] then some 6
  else if among ["+", "-"] then some 5
  else if among ["*", "/", "//", "%", "@"] then some 4
  else if among ["~"] then some 3
  else if among ["**"] then some 2
  else none

/-- In front of an attribute. -/
def dot : Nat := 1

/-- Nowhere. -/
def none : Nat := 0

end Priority

/-- The leaf is the sign of an order or an equality. -/
def Leaf.isOrderMark (l : Leaf) : Bool :=
  l.kind = .mark && ["<", ">", "==", "!=", "<=", ">="].any l.isMark

/-- How well a line can be broken in front of a word. -/
def wordPriority (l : Leaf) (path : Path) (before : Option Leaf) : Nat :=
  let behind (s : String) : Bool := before.any (·.isWord s)
  let isLoop := (l.isWord "for" && path.isIn .comprehension) || l.isWord "async"
  if isLoop && !path.previous?.any (·.isWord "async") then Priority.comprehension
  else if l.isWord "if" && path.isIn .comprehensionFilter then Priority.comprehension
  else if (l.isWord "if" || l.isWord "else") && path.isIn .ternary then Priority.ternary
  else if l.isWord "is" then Priority.comparator
  else if l.isWord "in" && path.isInAny [.comparator, .comparison] && !behind "not" then
    Priority.comparator
  else if l.isWord "not" && path.isIn .comparator && !behind "is" then Priority.comparator
  else if (l.isWord "and" || l.isWord "or") && !path.isEmpty then Priority.logic
  else Priority.none

/-- How well a line can be broken in front of a leaf, given the leaf before it. -/
def priorityBefore (l : Leaf) (path : Path) (before : Option Leaf) : Nat :=
  let isAttribute := l.isMark "." && !path.isEmpty && !path.isInAny [.importFrom, .dottedName]
  let operator? :=
    if l.kind = .mark && !path.isEmpty && !path.isInAny [.signed, .starred] then
      Priority.ofOperator? l.text
    else none
  if isUnpacking l path argumentParents then Priority.none
  else if isAttribute && !before.any (·.kind = .word) then Priority.dot
  else
    match operator? with
    | some priority => priority
    | none =>
      if l.isOrderMark then Priority.comparator
      else if l.kind = .string && before.any (·.kind = .string) then Priority.string
      else if l.kind = .word then wordPriority l path before
      else Priority.none

/-! ## Pieces -/

/-- A leaf on a line. -/
structure Piece where
  /-- The number of the leaf among all leaves; zero for a leaf that the layout adds. -/
  id : Nat
  leaf : Leaf
  /-- A space stands in front. -/
  spaced : Bool
  /-- The way up in the tree; empty for a leaf that is not in the tree. -/
  path : Path
  comments : List Text := []
  /-- The line of the text on which the leaf starts; zero if nobody wrote it. -/
  row : Nat := 0
  /-- How many brackets of the line are open. -/
  depth : Nat := 0
  /-- The number of the opening bracket of a closing one. -/
  opening : Option Nat := none
  /-- How well the line can be broken behind the piece. -/
  priority : Nat := 0

/-- The hidden parentheses that are shown, by their numbers. -/
abbrev Shown := List Nat

namespace Piece

def isSeen (shown : Shown) (p : Piece) : Bool := !p.leaf.hidden || shown.contains p.id

/-- What is seen of the piece. -/
def text (shown : Shown) (p : Piece) : Text := if p.isSeen shown then p.leaf.text else []

/-- What is seen of the piece, with the space in front of it. -/
def spacedText (shown : Shown) (p : Piece) : Text :=
  if p.spaced then CodePoint.space :: p.text shown else p.text shown

def isMark (s : String) (p : Piece) : Bool := p.leaf.isMark s

def isWord (s : String) (p : Piece) : Bool := p.leaf.isWord s

/-- The piece is a comment on a line of its own, or kept code. -/
def isKept (p : Piece) : Bool := p.leaf.kind = .kept

def opens (p : Piece) : Bool := p.leaf.opens

def closes (p : Piece) : Bool := p.leaf.closes

/-- The piece is a string over several lines. -/
def isMultilineString (p : Piece) : Bool :=
  p.leaf.kind = .string && (Literal.ofText p.leaf.text).isMultiline

/-- A comment on a line of its own. -/
def ofComment (t : Text) : Piece := ⟨0, ⟨.kept, t, [], false⟩, false, [], [], 0, 0, none, 0⟩

/-- A comma that nobody wrote. -/
def comma : Piece := ⟨0, ⟨.mark, .ofString ",", [], false⟩, false, [], [], 0, 0, none, 0⟩

/-- The leaves under the node above the piece. -/
def familySize (p : Piece) : Nat := (Tree.allLeaves (Path.siblings (.leaf p.leaf) p.path)).length

end Piece

end RecordGen.Source
