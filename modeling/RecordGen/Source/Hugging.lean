import RecordGen.Source.Line

/-!
# Powers

The mark of a power has no spaces around it if both operands are simple: numbers, and names with
attributes that are neither called nor subscripted.
-/

namespace RecordGen.Source

namespace Piece

/-- The piece is a word other than those of suspended functions. -/
def isPlainWord (p : Piece) : Bool :=
  p.leaf.kind = .word && !p.isWord "async" && !p.isWord "await"

/-- The piece is a word or a number. -/
def isSimple (p : Piece) : Bool := p.isPlainWord || p.leaf.kind = .number

end Piece

/-- The pieces behind a power, the first of them an operand, go on without a call or a subscript up to
the first piece that is no word and no dot. -/
def isUncalled : List Piece → Bool
  | [] => true
  | p :: rest =>
    if p.isMark "(" || p.isMark "[" then false
    else if !(p.isPlainWord || p.isMark ".") || p.isWord "for" then true
    else isUncalled rest

/-- The pieces behind a power start with a simple operand, perhaps behind a sign. -/
def startsSimply : List Piece → Bool
  | p :: rest =>
    if p.isSimple then isUncalled (p :: rest)
    else
      ["+", "-", "~"].any p.isMark && rest.head?.any Piece.isSimple && isUncalled rest
  | [] => false

/-- The pieces in front of a power, the nearest first, start with a simple operand. -/
def endsSimply : List Piece → Bool
  | p :: rest =>
    if p.leaf.kind = .number then true
    else if p.isPlainWord && !p.isWord "lambda" then
      match rest with
      | dot :: owner :: _ => !dot.isMark "." || !(owner.isMark ")" || owner.isMark "]")
      | _ => true
    else false
  | [] => false

/-- Some pieces without spaces around the powers of simple operands. `before` are the pieces in front,
the nearest first; `hugs` tells that the next piece follows such a power. -/
def hugPowers (before : List Piece) (hugs : Bool) : List Piece → List Piece
  | [] => []
  | p :: rest =>
    let isHugged := p.isMark "**" && endsSimply before && startsSimply rest
    { p with spaced := p.spaced && !hugs && !isHugged } :: hugPowers (p :: before) isHugged rest

/-- The line without spaces around the powers of simple operands. -/
def Line.hugged (l : Line) : Line :=
  if l.pieces.any (·.isMark "**") then { l with pieces := hugPowers [] false l.pieces } else l

end RecordGen.Source
