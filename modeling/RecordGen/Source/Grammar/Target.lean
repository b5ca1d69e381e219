import RecordGen.Source.Tree

/-!
# Targets

Which expressions can be assigned to, counted up, annotated or deleted.
-/

namespace RecordGen.Source

/-- Where a target stands: alone, among others, or between brackets of some sort. -/
inductive TargetPlace where
  | alone
  | item
  | brackets
  | parentheses
deriving DecidableEq, Repr

namespace Tree

/-- The node is an attribute or a subscript of something: its last part is one, and it is neither
awaited nor raised to a power. -/
def isReference : Tree → Bool
  | .node .power children =>
    !(children.head?.any (·.isWord "await")) && !children.any (·.isMark "**") &&
      match children.getLast? with
      | some (.node .trailer (opening :: _)) => opening.isMark "." || opening.isMark "["
      | _ => false
  | _ => false

def isName (t : Tree) : Bool := t.isLeafWhere Leaf.isName

mutual

/-- Values can be assigned to the tree: a name, a reference, or a display of such. A star may stand
in front of one among others, and in front of one alone in square brackets. -/
def isTarget (place : TargetPlace) : Tree → Bool
  | .leaf l => l.isName
  | .node .starred [_, inner] => (place = .item || place = .brackets) && isTarget .alone inner
  | .node .listItems children => place = .brackets && areTargets children
  | .node .groupItems children => place = .parentheses && areTargets children
  | .node .atom [opening, closing] =>
    (opening.isMark "(" && closing.isMark ")") || (opening.isMark "[" && closing.isMark "]")
  | .node .atom [opening, inner, _] =>
    if opening.isMark "[" then isTarget .brackets inner
    else if opening.isMark "(" then isTarget .parentheses inner
    else false
  | .node .power children => isReference (.node .power children)
  | _ => false

/-- Values can be assigned to all of some trees, commas apart. -/
def areTargets : List Tree → Bool
  | [] => true
  | t :: rest => (t.isMark "," || isTarget .item t) && areTargets rest

end

/-- Values can be assigned to the tree, which may be a list without brackets. -/
def isTargetList : Tree → Bool
  | .node .targets children => areTargets children
  | .node .starExpressions children => areTargets children
  | t => isTarget .item t

/-- The tree is a name or a reference, perhaps in parentheses. -/
def isSingleTarget : Tree → Bool
  | .leaf l => l.isName
  | .node .atom [opening, inner, _] => opening.isMark "(" && isSingleTarget inner
  | .node .power children => isReference (.node .power children)
  | _ => false

/-- The tree can get a type: it is a single target, but no reference that starts with a single target
in parentheses. -/
def isAnnotatable : Tree → Bool
  | .node .power (first :: rest) =>
    isReference (.node .power (first :: rest)) && !(first.isNode .atom && isSingleTarget first)
  | t => isSingleTarget t

mutual

/-- The tree can be deleted: a name, a reference, or a display of such. -/
def isDeletable (inside : Bool) : Tree → Bool
  | .leaf l => l.isName
  | .node .listItems children => inside && areDeletable children
  | .node .groupItems children => inside && areDeletable children
  | .node .targets children => !inside && areDeletable children
  | .node .atom [opening, _] => opening.isMark "(" || opening.isMark "["
  | .node .atom [opening, inner, _] =>
    (opening.isMark "(" || opening.isMark "[") && isDeletable true inner
  | .node .power children => isReference (.node .power children)
  | _ => false

/-- All of some trees can be deleted, commas apart. -/
def areDeletable : List Tree → Bool
  | [] => true
  | t :: rest => (t.isMark "," || isDeletable false t) && areDeletable rest

end
end Tree
end RecordGen.Source
