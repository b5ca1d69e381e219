import RecordGen.Source.Leaf

/-!
# Syntax trees

The leaves of a text under nodes that name their part in it. A node below the root has at least two
children, so a name alone is the same tree wherever it stands. A place is a leaf or a node together
with the way up to the root and the neighbours along it.
-/

namespace RecordGen.Source

/-- What the children of a node make together. -/
inductive NodeKind where
  -- statements
  | text
  | simpleLine
  | block
  | assignment
  | hint
  | deletion
  | returning
  | raising
  | scopeNames
  | assertion
  | importName
  | importFrom
  | importedName
  | importedNames
  | dottedImport
  | dottedImports
  | dottedName
  | conditional
  | whileLoop
  | forLoop
  | tryBlock
  | exceptClause
  | withBlock
  | namedContext
  | function
  | asyncFunction
  | asyncBlock
  | classBlock
  | decorated
  | decorators
  | decorator
  | matchBlock
  | caseBlock
  | caseGuard
  | subjects
  | patterns
  | pattern
  -- parameters
  | parameters
  | typedParameters
  | lambdaParameters
  | typedName
  | typedStarName
  -- expressions
  | ternary
  | lambda
  | disjunction
  | conjunction
  | negation
  | comparison
  | comparator
  | starred
  | bitOr
  | bitXor
  | bitAnd
  | shift
  | sum
  | product
  | signed
  | power
  | atom
  | groupItems
  | listItems
  | braceItems
  | trailer
  | subscripts
  | slice
  | sliceStep
  | arguments
  | argument
  | targets
  | expressions
  | starExpressions
  | named
  | comprehension
  | comprehensionFilter
  | yielding
  | yieldFrom
deriving DecidableEq, Repr

inductive Tree where
  | leaf (l : Leaf)
  | node (kind : NodeKind) (children : List Tree)

namespace Tree

/-- A node of some children; one child alone stays as it is. -/
def group (kind : NodeKind) : List Tree → Tree
  | [child] => child
  | children => .node kind children

mutual

def leaves : Tree → List Leaf
  | .leaf l => [l]
  | .node _ children => allLeaves children

/-- The leaves of some trees in order. -/
def allLeaves : List Tree → List Leaf
  | [] => []
  | t :: rest => leaves t ++ allLeaves rest

end

def firstLeaf? (t : Tree) : Option Leaf := t.leaves.head?

def lastLeaf? (t : Tree) : Option Leaf := t.leaves.getLast?

/-- The text in front of the first leaf. -/
def lead (t : Tree) : Text := (t.firstLeaf?.map Leaf.lead).getD []

mutual

/-- Puts another text in front of the first leaf. -/
def withLead (lead : Text) : Tree → Tree
  | .leaf l => .leaf { l with lead }
  | .node kind children => .node kind (allWithLead lead children)

/-- Puts another text in front of the first leaf of the first tree. -/
def allWithLead (lead : Text) : List Tree → List Tree
  | [] => []
  | t :: rest => withLead lead t :: rest

end

def text (t : Tree) : Text := t.leaves.flatMap fun l => l.lead ++ l.text

def kind? : Tree → Option NodeKind
  | .leaf _ => none
  | .node kind _ => some kind

def children : Tree → List Tree
  | .leaf _ => []
  | .node _ children => children

def isNode (kind : NodeKind) (t : Tree) : Bool := t.kind? = some kind

def isLeafWhere (holds : Leaf → Bool) : Tree → Bool
  | .leaf l => holds l
  | .node _ _ => false

def isMark (s : String) (t : Tree) : Bool := t.isLeafWhere (·.isMark s)

def isWord (s : String) (t : Tree) : Bool := t.isLeafWhere (·.isWord s)

def isLeafOf (kind : LeafKind) (t : Tree) : Bool := t.isLeafWhere fun l => l.kind = kind

end Tree

/-! ## Places -/

/-- One step of the way up from a tree: the node above it, and the neighbours there, the nearest
first. -/
structure Frame where
  kind : NodeKind
  before : List Tree
  after : List Tree

/-- The way up from a tree to the root, innermost first. -/
abbrev Path := List Frame

namespace Path

/-- The kind of the node above. -/
def kind? (p : Path) : Option NodeKind := p.head?.map Frame.kind

/-- The kind of the node above the node above. -/
def outerKind? (p : Path) : Option NodeKind := kind? (p.drop 1)

/-- The node above is of a kind. -/
def isIn (kind : NodeKind) (p : Path) : Bool := p.kind? = some kind

/-- The node above is of one of some kinds. -/
def isInAny (kinds : List NodeKind) (p : Path) : Bool :=
  match p.kind? with
  | some kind => kinds.contains kind
  | none => false

/-- The neighbour in front, under the same node. -/
def previous? (p : Path) : Option Tree := p.head?.bind fun frame => frame.before.head?

/-- The neighbour behind, under the same node. -/
def next? (p : Path) : Option Tree := p.head?.bind fun frame => frame.after.head?

/-- All children of the node above, given the tree itself. -/
def siblings (t : Tree) (p : Path) : List Tree :=
  match p with
  | [] => [t]
  | frame :: _ => frame.before.reverse ++ t :: frame.after

/-- The last leaf in front of a place, and the way up from it as far as its kinds go. -/
def precedingLeaf? : Path → Option Leaf
  | [] => none
  | frame :: outer =>
    match frame.before with
    | t :: _ => t.lastLeaf?
    | [] => precedingLeaf? outer

end Path

mutual

/-- The leaves of a tree with their ways up. -/
def placesOf (path : Path) : Tree → List (Leaf × Path)
  | .leaf l => [(l, path)]
  | .node kind children => childPlaces kind path [] children

/-- The leaves of the children of a node with their ways up. -/
def childPlaces (kind : NodeKind) (path : Path) (before : List Tree) :
    List Tree → List (Leaf × Path)
  | [] => []
  | t :: rest =>
    placesOf (⟨kind, before, rest⟩ :: path) t ++ childPlaces kind path (t :: before) rest

end

/-- The last leaf in front of a place with its own way up. -/
def precedingPlace? : Path → Option (Leaf × Path)
  | [] => none
  | frame :: outer =>
    match frame.before with
    | t :: others => (placesOf (⟨frame.kind, others, []⟩ :: outer) t).getLast?
    | [] => precedingPlace? outer

end RecordGen.Source
