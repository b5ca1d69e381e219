import RecordGen.Source.Tree

/-!
# Spacing

Whether a space stands between a leaf and the one in front of it on the same line. The place of the
leaf in its tree decides: a sign hugs its operand, a bracket what is in it, a keyword is set apart.
-/

namespace RecordGen.Source

/-! ## Marks -/

/-- The marks of operators on numbers and sets. -/
def arithmeticMarks : List Text :=
  ["|", "^", "&", "<<", ">>", "+", "-", "*", "/", "//", "%", "@", "~", "**"].map Text.ofString

/-- The leaf is the mark of an operator on numbers or sets. -/
def Leaf.isArithmetic (l : Leaf) : Bool := l.kind = .mark && arithmeticMarks.contains l.text

/-- The leaf is a mark that may set parameters apart: one star, two stars or a slash. -/
def Leaf.isParameterMark (l : Leaf) : Bool := l.isMark "*" || l.isMark "**" || l.isMark "/"

/-- The nodes in which a star takes several arguments. -/
def argumentParents : List NodeKind :=
  [.arguments, .argument, .trailer, .typedParameters, .lambdaParameters]

/-- The nodes in which a star takes several items. -/
def itemParents : List NodeKind :=
  [.atom, .braceItems, .listItems, .groupItems, .starExpressions, .subjects, .pattern]

/-- The leaf is a star or a slash of one of some nodes, and no operator. -/
def isUnpacking (l : Leaf) (path : Path) (parents : List NodeKind) : Bool :=
  l.isParameterMark &&
    if path.isIn .starred then Path.isInAny parents (path.drop 1) else path.isInAny parents

/-! ## Subscripts -/

/-- The expressions that make the slices around them spaced. -/
def complexKinds : List NodeKind :=
  [.ternary, .lambda, .disjunction, .conjunction, .negation, .comparison, .starred, .bitOr, .bitXor,
    .bitAnd, .shift, .sum, .trailer, .product, .power, .named]

namespace Tree

mutual

/-- Some expression in the tree is more than a name, a number or a string. -/
def isComplex : Tree → Bool
  | .leaf _ => false
  | .node kind children => complexKinds.contains kind || anyComplex children

/-- Some expression in some trees is more than a name, a number or a string. -/
def anyComplex : List Tree → Bool
  | [] => false
  | t :: rest => isComplex t || anyComplex rest

end

end Tree

/-- The subscript around a place is complex: its slices are set apart by spaces. -/
def isComplexSubscript (t : Tree) : Path → Bool
  | [] => false
  | frame :: outer =>
    let inSubscript (path : Path) : Bool :=
      path.isIn .trailer && path.previous?.any (·.isMark "[")
    if inSubscript (frame :: outer) then t.isComplex
    else if frame.kind = .subscripts && inSubscript outer then t.isComplex
    else if frame.kind = .trailer || frame.kind = .atom || frame.kind = .parameters then false
    else isComplexSubscript (.node frame.kind (Path.siblings t (frame :: outer))) outer

/-! ## Spaces -/

/-- The tree is a parameter with a type. -/
def Tree.isTypedName (t : Tree) : Bool := t.isNode .typedName || t.isNode .typedStarName

/-- The sign in front of a default value at a place is set apart, as it is behind a type. -/
def isSpacedDefault (path : Path) : Bool := path.previous?.any Tree.isTypedName

/-- What the leaf in front of a place decides for a leaf without a neighbour of its own: a space, no
space, or nothing. -/
def spaceBehind? (l : Leaf) (path : Path) : Option Bool :=
  match precedingPlace? path with
  | none => some false
  | some (before, behind) =>
    if before.opens then some false
    else if l.isMark ":" then some (before.isMark ",")
    else if before.isMark "=" then
      if behind.isInAny [.arguments, .argument, .parameters, .lambdaParameters] then some false
      else if behind.isIn .typedParameters then some (isSpacedDefault behind)
      else none
    else if before.isMark "*" && behind.isIn .starred &&
        (behind.outerKind? = some .subscripts || behind.outerKind? = some .typedStarName) then
      some false
    else if before.isParameterMark then
      if isUnpacking before behind (argumentParents ++ itemParents) then some false else none
    else if before.isMark ":" then
      if behind.isInAny [.slice, .sliceStep] then some (isComplexSubscript (.leaf l) path)
      else none
    else if behind.isInAny [.signed, .starred] && before.isArithmetic then some false
    else if before.isMark "@" && Path.isIn .decorator (path.drop 1) then some false
    else none

/-- A space in front of a leaf, as the node above it and the neighbour in front have it. -/
def spaceIn (kind : NodeKind) (l : Leaf) (path : Path) : Bool :=
  let previous := path.previous?
  let behindComma := previous.any (·.isMark ",")
  let preceding := path.precedingLeaf?
  match kind with
  | .parameters => behindComma
  | .arguments => behindComma
  | .lambdaParameters => previous.isNone || behindComma
  | .typedParameters =>
    if previous.isNone then false
    else if l.isMark "=" then isSpacedDefault path
    else if previous.any (·.isMark "=") then
      (path.head?.bind fun frame => (frame.before.drop 1).head?).any Tree.isTypedName
    else behindComma
  | .typedName => previous.isSome || preceding.any (·.isMark ",")
  | .typedStarName => previous.isSome || preceding.any (·.isMark ",")
  | .trailer =>
    if l.isMark "(" || l.isMark ")" then false
    else if previous.isNone then !(l.isMark "." || l.isMark "[")
    else behindComma
  | .argument =>
    if l.isMark "=" then false
    else if previous.isNone then preceding.any (!·.isMark "(")
    else !previous.any fun t => t.isMark "=" || t.isLeafWhere Leaf.isParameterMark
  | .decorator => false
  | .dottedName =>
    previous.isNone && preceding.any fun before => !(before.isMark "@" || before.isMark ".")
  | .classBlock => !(l.isMark "(" || previous.any (·.isMark "("))
  | .slice => subscriptSpace
  | .sliceStep => subscriptSpace
  | .atom => !(previous.isSome && l.isMark ".")
  | .braceItems => !previous.any (·.isMark "**")
  | .signed => signSpace
  | .starred => signSpace
  | .importFrom =>
    let behindDot := previous.any (·.isMark ".")
    if l.isMark "." then previous.isSome && !behindDot
    else if l.kind = .word && !l.isWord "import" then !behindDot
    else true
  | .exceptClause => !l.isMark "*"
  | _ => true
where
  /-- A space in front of a leaf of a slice. -/
  subscriptSpace : Bool :=
    match path.previous? with
    | none => Path.isIn .subscripts (path.drop 1)
    | some before =>
      l.isMark ":=" || before.isMark ":=" || isComplexSubscript (.leaf l) path
  /-- A space in front of a sign or of what stands behind one. -/
  signSpace : Bool :=
    if path.previous?.isSome then !(l.kind = .word || l.kind = .number || l.kind = .string)
    else
      match precedingPlace? path with
      | none => false
      | some (before, behind) =>
        !(before.opens || (before.isMark ":" && behind.isInAny [.slice, .sliceStep]) ||
          (before.isMark "=" && behind.isIn .argument))

/-- A space stands in front of a leaf that is not the first of its line. -/
def hasSpaceBefore (l : Leaf) (path : Path) : Bool :=
  if l.closes || l.isMark "," || l.kind = .kept then false
  else if l.isMark ":" && !path.isInAny [.slice, .subscripts, .sliceStep] then false
  else
    let decided :=
      match path.previous? with
      | none => spaceBehind? l path
      | some (.leaf before) => if before.opens then some false else none
      | some (.node _ _) => none
    match decided, path.kind? with
    | some space, _ => space
    | none, some kind => spaceIn kind l path
    | none, none => true

end RecordGen.Source
