import RecordGen.Source.Comment
import RecordGen.Source.Tree

/-!
# Kept code

Code whose layout a directive keeps: from a comment that switches the layout off to the one that
switches it on again or to the end of the block, and the line of a comment that skips it. Such code
becomes one leaf, which the layout leaves as it is.
-/

namespace RecordGen.Source

/-- Some leaves of a tree in a row, and the leaf that takes their place. -/
structure Stretch where
  first : Nat
  count : Nat
  kept : Leaf

namespace Stretch

mutual

/-- A tree, given the number of leaves in front of it, with a stretch in place of its leaves. A tree
inside of the stretch goes, or is the kept leaf if the stretch starts with it. -/
def replaceIn (s : Stretch) (start : Nat) : Tree → List Tree
  | .leaf l =>
    if start = s.first then [.leaf s.kept]
    else if s.first < start && start < s.first + s.count then []
    else [.leaf l]
  | .node kind children =>
    let last := start + (Tree.allLeaves children).length
    if s.first ≤ start && last ≤ s.first + s.count then
      if start = s.first then [.leaf s.kept] else []
    else [.node kind (replaceAll s start children)]

/-- Some trees with a stretch in place of its leaves. -/
def replaceAll (s : Stretch) (start : Nat) : List Tree → List Tree
  | [] => []
  | t :: rest => replaceIn s start t ++ replaceAll s (start + t.leaves.length) rest

end

end Stretch

mutual

/-- A tree, given the number of leaves in front of it, with another lead for the leaf of a number. -/
def Tree.setLead (n : Nat) (lead : Text) (start : Nat) : Tree → Tree
  | .leaf l => if start = n then .leaf { l with lead } else .leaf l
  | .node kind children => .node kind (Tree.setLeadAll n lead start children)

/-- Some trees with another lead for the leaf of a number. -/
def Tree.setLeadAll (n : Nat) (lead : Text) (start : Nat) : List Tree → List Tree
  | [] => []
  | t :: rest =>
    Tree.setLead n lead start t :: Tree.setLeadAll n lead (start + t.leaves.length) rest

end

/-! ## Layout switched off -/

/-- The last directive in a lead switches the layout on. -/
def switchesOn (lead : Text) : Bool :=
  (leadComments false lead).foldl (fun on comment =>
    if onDirectives.contains comment.text then true
    else if offDirectives.contains comment.text then false
    else on) false

/-- A child of the tree starts with a directive that switches the layout on. -/
def Tree.hasSwitchOn (t : Tree) : Bool := t.children.any fun child => switchesOn child.lead

/-- The greatest tree that starts with a leaf, up to a statement, and what comes behind it under the
same node. Brackets bound it. -/
def startingTree (t : Tree) : Path → List Tree
  | [] => [t]
  | frame :: outer =>
    let bracketed :=
      match Path.previous? outer with
      | some (.leaf l) => l.opens || l.closes
      | _ => false
    if !frame.before.isEmpty || frame.kind = .text || bracketed then t :: frame.after
    else startingTree (.node frame.kind (t :: frame.after)) outer

/-- The children of a node up to a directive that switches the layout on. -/
def childrenUntilOn : List Tree → List Tree
  | [] => []
  | t :: rest =>
    let entersBlock := t.isLeafOf .indent && rest.head?.any Tree.hasSwitchOn
    let isOn :=
      match t with
      | .leaf l => switchesOn l.lead
      | .node _ _ => t.hasSwitchOn
    if isOn || entersBlock then [] else t :: childrenUntilOn rest

/-- Trees in a row up to a directive that switches the layout on, or to the end of the block. -/
def treesUntilOn : List Tree → List Tree
  | [] => []
  | t :: rest =>
    let ends := t.isLeafOf .finish || (t.isLeafOf .dedent && rest.isEmpty)
    if ends || switchesOn t.lead then []
    else if t.hasSwitchOn then childrenUntilOn t.children
    else t :: treesUntilOn rest

def withoutLineEnd (t : Text) : Text :=
  if t.getLast? = some CodePoint.lineFeed then t.dropLast else t

/-- The stretch that a comment in front of a leaf switches off, given how much of the lead comes
before the comment. -/
def offStretch? (n : Nat) (l : Leaf) (path : Path) (before : Nat) (comment : Comment) :
    Option Stretch :=
  let trees := treesUntilOn (startingTree (.leaf l) path)
  if trees.isEmpty then none
  else
    let code := l.lead.drop comment.extent ++ (trees.flatMap Tree.text).drop l.lead.length
    let lead := l.lead.take before ++ List.replicate comment.blanks CodePoint.lineFeed
    let kept : Leaf := ⟨.kept, withoutLineEnd (Text.line comment.text ++ code), lead, false⟩
    some ⟨n, (Tree.allLeaves trees).length, kept⟩

/-! ## Lines that skip the layout -/

/-- How many leaves in front of some others are on the same line, the nearest first, given whether
the line still goes on in front of them. -/
def sameLineCount (goesOn : Bool) : List Leaf → Nat
  | [] => 0
  | l :: rest =>
    if !goesOn || l.isMargin then 0
    else sameLineCount (!l.lead.contains CodePoint.lineFeed) rest + 1

/-- How many leaves in front of a leaf are on the line that its comment ends. `before` are the leaves
in front of it, the nearest first. A header of a block reaches back to the block before. -/
def skippedCount (l : Leaf) (path : Path) (before : List Leaf) : Nat :=
  let count (trees : List Tree) : Nat := (Tree.allLeaves trees).length
  if l.kind = .lineEnd && path.isIn .block then
    let header := ((path.drop 1).head?.map Frame.before).getD []
    let own := count (header.takeWhile fun t => !t.isNode .block)
    let outer := ((path.drop 2).head?.map Frame.before).getD []
    let isFirst := own = count header
    if isFirst && outer.head?.any (·.isWord "async") then own + 1 else own
  else
    match (path.previous?).or (Path.previous? (path.drop 1)) with
    | none => 0
    | some t =>
      let own := t.leaves.length
      own + sameLineCount (!t.lead.contains CodePoint.lineFeed) (before.drop own)

/-- The stretch that a comment behind a line keeps. -/
def skipStretch? (n : Nat) (l : Leaf) (path : Path) (before : List Leaf) (comment : Comment) :
    Option Stretch :=
  let leaves := (before.take (skippedCount l path before)).reverse
  match leaves with
  | [] => none
  | first :: _ =>
    let code := (leaves.flatMap fun l => l.lead ++ l.text).drop first.lead.length
    let kept : Leaf := ⟨.kept, code ++ comment.gaps ++ comment.text, first.lead, false⟩
    some ⟨n - leaves.length, leaves.length, kept⟩

/-! ## Trees with kept leaves -/

/-- The tree with the stretch of a directive among some comments of a leaf kept, if there is one. -/
def keepComment? (tree : Tree) (n : Nat) (l : Leaf) (path : Path) (before : List Leaf) :
    (extent : Nat) → List Comment → Option Tree
  | _, [] => none
  | extent, comment :: rest =>
    let others := keepComment? tree n l path before comment.extent rest
    let onMargin := before.head?.all Leaf.isMargin
    if offDirectives.contains comment.text && !l.closes && (!comment.trails || onMargin) then
      match offStretch? n l path extent comment with
      | some stretch => (stretch.replaceIn 0 tree).head?
      | none => others
    else if isSkipComment comment.text && comment.trails && extent = 0 && !onMargin then
      match skipStretch? n l path before comment with
      | some stretch =>
        (stretch.replaceIn 0 (tree.setLead n (l.lead.drop comment.extent) 0)).head?
      | none => others
    else others

/-- The tree with the stretch of the first directive kept. `before` are the leaves in front, the
nearest first. -/
def keepFirst? (tree : Tree) (n : Nat) (before : List Leaf) : List (Leaf × Path) → Option Tree
  | [] => none
  | (l, path) :: rest =>
    match keepComment? tree n l path before 0 (leadComments false l.lead) with
    | some tree => some tree
    | none => keepFirst? tree (n + 1) (l :: before) rest

/-- The tree with the stretches of all directives kept. -/
def keepDirectives : (fuel : Nat) → Tree → Tree
  | 0, tree => tree
  | fuel + 1, tree =>
    match keepFirst? tree 0 [] (placesOf [] tree) with
    | some tree => keepDirectives fuel tree
    | none => tree

/-- The tree with all code kept whose layout directives keep. -/
def Tree.withKept (t : Tree) : Tree :=
  if t.leaves.any fun l => l.lead.contains commentMark then keepDirectives (t.leaves.length + 1) t
  else t

end RecordGen.Source
