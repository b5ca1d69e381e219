import RecordGen.Source.Spelling
import RecordGen.Source.Tree

/-!
# Language versions

The least minor version of the language that can read a text, as far as its layout depends on it, and
the versions that a grammar of a set target cannot read.
-/

namespace RecordGen.Source

namespace Tree

mutual

/-- A tree and all trees in it, from outside in. -/
def subtrees : Tree → List Tree
  | .leaf l => [.leaf l]
  | .node kind children => .node kind children :: allSubtrees children

/-- Some trees and all trees in them. -/
def allSubtrees : List Tree → List Tree
  | [] => []
  | t :: rest => subtrees t ++ allSubtrees rest

end

/-- The tree is a mark of one or two stars. -/
def isStar (t : Tree) : Bool := t.isMark "*" || t.isMark "**"

/-- The tree is an attribute or, in last place, the arguments of a call. -/
def isSimpleTrailer (last : Bool) : Tree → Bool
  | .node .trailer (opening :: rest) =>
    (opening.isMark "." && rest.length = 1) || (last && opening.isMark "(")
  | _ => false

/-- The tree is a name with attributes that may be called once. -/
def isSimpleDecorator : Tree → Bool
  | .leaf l => l.kind = .word
  | .node .power (first :: rest) =>
    first.isLeafOf .word && rest.dropLast.all (isSimpleTrailer false) &&
      rest.getLast?.all (isSimpleTrailer true)
  | _ => false

mutual

/-- Contexts in parentheses, one of them with a variable. -/
def hasNamedContext : Tree → Bool
  | .leaf _ => false
  | .node .namedContext _ => true
  | .node .atom children => (children.head?.any (·.isMark "(")) && anyNamedContext children
  | .node .groupItems children => anyNamedContext children
  | .node _ _ => false

/-- One of some trees has contexts with a variable. -/
def anyNamedContext : List Tree → Bool
  | [] => false
  | t :: rest => hasNamedContext t || anyNamedContext rest

end

end Tree

/-- The spelling of a literal that only interpolated ones have. -/
def interpolatedMarks : List Text := ["f", "F", "rf", "fr", "RF", "FR"].map Text.ofString

/-- The least minor version that has a leaf. -/
def Leaf.leastMinor (l : Leaf) : Nat :=
  match l.kind with
  | .number => if l.text.contains (CodePoint.ofChar '_') then 6 else 3
  | .string =>
    let literal := Literal.ofText l.text
    let tellsItself (part : Text) : Bool := part.getLast? = some (CodePoint.ofChar '=')
    if !interpolatedMarks.contains literal.mark then 3
    else if (bracedParts (literal.body.length + 1) false literal.body).any tellsItself then 8
    else 6
  | _ => 3

/-- The least minor version that has a node, the trees in it apart. -/
def nodeMinor (kind : NodeKind) (children : List Tree) : Nat :=
  let second := children.drop 1 |>.head?
  let commaEnds := children.getLast?.any (·.isMark ",")
  let hasStarred (t : Tree) : Bool := t.isNode .starExpressions && t.children.any (·.isNode .starred)
  let isUnpacked (t : Tree) : Bool := t.isNode .argument && t.children.any Tree.isStar
  let hasSlash := children.any (·.isMark "/")
  match kind with
  | .typedParameters =>
    if hasSlash then 8 else if commaEnds && children.any Tree.isStar then 6 else 3
  | .lambdaParameters => if hasSlash then 8 else 3
  | .arguments => if commaEnds && children.any isUnpacked then 5 else 3
  | .named => 8
  | .argument => if children.any (·.isMark ":=") then 8 else 3
  | .slice => if children.any (·.isMark ":=") then 8 else 3
  | .decorator => if second.any Tree.isSimpleDecorator then 3 else 9
  | .returning => if second.any hasStarred then 8 else 3
  | .yielding => if second.any hasStarred then 8 else 3
  | .hint => if (children.drop 3).head?.any (·.isNode .starExpressions) then 8 else 3
  | .withBlock =>
    if second.any fun t => t.isNode .atom && t.hasNamedContext then 9 else 3
  | .matchBlock => 10
  | .exceptClause => if second.any (·.isMark "*") then 11 else 3
  | .subscripts => if children.any (·.isNode .starred) then 11 else 3
  | .trailer => if children.any (·.isNode .starred) then 11 else 3
  | .typedStarName => 11
  | .comprehension => if children.head?.any (·.isWord "async") then 7 else 3
  | _ => 3

/-- The statements at the start of a text take the later rule for annotations. -/
def postponesAnnotations : List Tree → Bool
  | [] => false
  | .node .simpleLine [.leaf l, _] :: rest => l.kind = .string && postponesAnnotations rest
  | .node .simpleLine (.node .importFrom (_ :: path :: _ :: names) :: _) :: rest =>
    path.isWord "__future__" &&
      (names.any (fun t => t.leaves.any (·.isWord "annotations")) || postponesAnnotations rest)
  | _ => false

/-- The least minor version of the language that can read a text. -/
def Tree.leastMinor (t : Tree) : Nat :=
  let own (t : Tree) : Nat :=
    match t with
    | .leaf l => l.leastMinor
    | .node kind children => nodeMinor kind children
  let start := if postponesAnnotations t.children then 7 else 3
  t.subtrees.foldl (fun least t => max least (own t)) start

mutual

/-- Something is awaited outside of functions that may be suspended. -/
def Tree.awaitsOutside : Tree → Bool
  | .leaf l => l.isWord "await"
  | .node .asyncFunction _ => false
  | .node .asyncBlock (first :: rest) =>
    match rest with
    | [.node .function _] => false
    | [.node .withBlock _] => true
    | _ => Tree.anyAwaitsOutside (first :: rest)
  | .node _ children => Tree.anyAwaitsOutside children

/-- Something is awaited in some trees outside of functions that may be suspended. -/
def Tree.anyAwaitsOutside : List Tree → Bool
  | [] => false
  | t :: rest => Tree.awaitsOutside t || Tree.anyAwaitsOutside rest

end

/-- A target can read a text: distinctions of cases came with version 10, and before version 7 only
functions that may be suspended have words for it. -/
def Tree.isReadableFor (minor : Nat) (t : Tree) : Bool :=
  (10 ≤ minor || !t.subtrees.any (·.isNode .matchBlock)) && (7 ≤ minor || !t.awaitsOutside)

end RecordGen.Source
