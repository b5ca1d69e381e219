import RecordGen.Source.Comment
import RecordGen.Source.Tree

/-!
# Optional parentheses

Parentheses that change nothing are hidden, and hidden ones are put around expressions that may need
them when their line is broken. Some that help a reader are shown: around tuples of one item, around
numbers with attributes, and around powers with a sign in front.
-/

namespace RecordGen.Source

/-! ## Pairs of parentheses -/

/-- A parenthesis that nobody wrote. -/
def parenthesis (s : String) (lead : Text) (hidden : Bool) : Tree :=
  .leaf ⟨.mark, .ofString s, lead, hidden⟩

namespace Tree

def inParentheses (hidden : Bool) (t : Tree) : Tree :=
  .node .atom [parenthesis "(" t.lead hidden, t.withLead [], parenthesis ")" [] hidden]

def isHidden (t : Tree) : Bool := t.isLeafWhere Leaf.hidden

/-- Hides a leaf. -/
def hide : Tree → Tree
  | .leaf l => .leaf { l with hidden := true }
  | t => t

/-- Puts a text in front of the lead, if the text has more than blanks. -/
def prepend (lead : Text) (t : Tree) : Tree :=
  if lead.all Unicode.isBlank then t else t.withLead (lead ++ t.lead)

/-- The tree hands out a value, perhaps in parentheses. -/
def isYield : Tree → Bool
  | .leaf l => l.isWord "yield"
  | .node .yielding _ => true
  | .node .atom [opening, inner, closing] =>
    opening.isMark "(" && closing.isMark ")" && isYield inner
  | .node _ _ => false

/-- The tree is a tuple of one item without parentheses. -/
def isBareOneTuple : Tree → Bool
  | .node kind [_, comma] =>
    (kind = .expressions || kind = .starExpressions || kind = .targets) && comma.isMark ","
  | _ => false

end Tree

/-- The statements in which an assignment inside of an expression keeps its parentheses. -/
def namedKeepers : List NodeKind :=
  [.hint, .assignment, .assertion, .returning, .exceptClause, .function, .withBlock, .groupItems,
    .typedName, .forLoop, .deletion]

/-- The parentheses around a tree have to stay under a node of a kind: around values handed out,
around tuples and generators unless commas may stand free, and around some assignments. -/
def keepsParentheses (parent : NodeKind) (commasToo : Bool) (inner : Tree) : Bool :=
  let binding (t : Tree) : Bool := t.isNode .named || t.isNode .starred || t.isNode .comprehension
  inner.isYield ||
    (inner.isNode .groupItems && (!commasToo || inner.children.any binding)) ||
    (inner.isNode .named && namedKeepers.contains parent)

/-- An expression under a node of a kind with its parentheses hidden where they change nothing, and
whether hidden ones should be put around it. Of several pairs one is left. -/
def hideParentheses (parent : NodeKind) (commasToo : Bool) : Tree → Tree × Bool
  | .node .atom [first, middle, last] =>
    if first.isMark "(" && last.isMark ")" then
      if keepsParentheses parent commasToo middle then (.node .atom [first, middle, last], false)
      else
        let (inner, _) := hideParentheses parent commasToo middle
        let checked := !isTypeIgnore (trimmed middle.lead)
        let hideIf (t : Tree) : Tree := if checked then t.hide else t
        match inner with
        | .node .atom [opening, content, closing] =>
          if opening.isHidden && closing.isHidden then
            (.node .atom [hideIf first, content.prepend opening.lead,
              (hideIf last).prepend closing.lead], false)
          else (.node .atom [hideIf first, inner, hideIf last], false)
        | _ => (.node .atom [hideIf first, inner, hideIf last], false)
    else (.node .atom [first, middle, last], true)
  | .node .atom children => (.node .atom children, !(children.head?.any (·.isMark "(")))
  | .node .bitOr children => (.node .bitOr children, true)
  | t => (t, false)

/-- An expression with its parentheses hidden, or with hidden ones around it. -/
def optionalParentheses (parent : NodeKind) (commasToo : Bool) (t : Tree) : Tree :=
  let (inner, wraps) := hideParentheses parent commasToo t
  if wraps then inner.inParentheses true else inner

/-! ## Statements -/

/-- The words and marks of a statement behind which optional parentheses may stand. -/
def marksBefore : NodeKind → List String
  | .assertion => ["assert", ","]
  | .conditional => ["if", "elif"]
  | .whileLoop => ["while"]
  | .forLoop => ["for", "in"]
  | .exceptClause => ["except"]
  | .withBlock => ["with"]
  | .assignment => assignmentMarks
  | .hint => assignmentMarks
  | .returning => ["return"]
  | .importFrom => ["import"]
  | .deletion => ["del"]
  | .caseGuard => ["if"]
  | _ => []
where
  /-- The marks of assignments and annotations. -/
  assignmentMarks : List String :=
    ["=", ":=", "+=", "-=", "*=", "@=", "/=", "%=", "&=", "|=", "^=", "<<=", ">>=", "**=", "//=",
      ":"]

def Tree.isOneOf (texts : List String) (t : Tree) : Bool :=
  t.isLeafWhere fun l => texts.any fun s => l.text = Text.ofString s

/-- The contexts of a block with their parentheses hidden. -/
def hideContexts : (fuel : Nat) → (parent : NodeKind) → Tree → Tree
  | 0, _, t => t
  | fuel + 1, parent, t =>
    match t with
    | .node .atom children =>
      let (inner, wraps) := hideParentheses parent true (.node .atom children)
      let inner :=
        match inner with
        | .node .atom (first :: second :: rest) =>
          .node .atom (first :: hideContexts fuel .atom second :: rest)
        | _ => inner
      if wraps then inner.inParentheses true else inner
    | .node .groupItems children =>
      .node .groupItems (children.map (hideContexts fuel .groupItems))
    | .node .namedContext (own :: rest) =>
      if t.leaves.any (·.isMark ":=") then t
      else .node .namedContext (optionalParentheses .namedContext true own :: rest)
    | t => t

/-- The names of an import with the parentheses around them hidden. -/
def hideImportParentheses : List Tree → List Tree
  | [] => []
  | first :: rest =>
    if first.isMark "(" then first.hide :: rest.dropLast ++ (rest.getLast?.map Tree.hide).toList
    else if first.isMark "*" then first :: rest
    else parenthesis "(" [] true :: first :: rest ++ [parenthesis ")" [] true]

/-- The leaf is a string over several lines. -/
def Leaf.isMultilineString (l : Leaf) : Bool :=
  l.kind = .string && (Literal.ofText l.text).isMultiline

/-- A part of a statement of some kind with its optional parentheses, given the part in front. -/
def optionalPart (kind : NodeKind) (previous : Option Tree) (t : Tree) : Tree :=
  let isAtom := t.isNode .atom
  let isTarget := kind = .forLoop && previous.any (·.isWord "for")
  if isAtom && (isTarget || kind = .deletion) then optionalParentheses kind true t
  else if kind = .withBlock && t.kind?.isSome then hideContexts (t.leaves.length + 1) kind t
  else if isAtom then optionalParentheses kind false t
  else if t.isBareOneTuple then t.inParentheses false
  else if t.isLeafWhere Leaf.isMultilineString then t
  else t.inParentheses true

/-- The parts of a statement with their optional parentheses, given whether they may stand in front
and the part before. The star behind `except` belongs to the word. -/
def optionalParts (kind : NodeKind) (marks : List String) (may : Bool) (previous : Option Tree) :
    List Tree → List Tree
  | [] => []
  | t :: rest =>
    if may && kind = .importFrom then hideImportParentheses (t :: rest)
    else if may && kind = .exceptClause && t.isMark "*" then
      t :: optionalParts kind marks true (some t) rest
    else
      (if may then optionalPart kind previous t else t) ::
        optionalParts kind marks (t.isOneOf marks) (some t) rest

/-- The contexts of a block in hidden parentheses of their own. -/
def groupContexts (children : List Tree) : List Tree :=
  match children with
  | first :: rest =>
    let contexts := rest.takeWhile fun t => !t.isMark ":"
    match contexts with
    | [] => children
    | head :: _ =>
      if head.isNode .atom then children
      else
        first :: .node .atom [parenthesis "(" [] true, .node .groupItems contexts,
          parenthesis ")" [] true] :: rest.drop contexts.length
  | [] => []

/-- The parts of a statement with optional parentheses. A directive in front keeps them as they are,
and contexts are grouped where the language has it. -/
def arrangeStatement (groups : Bool) (kind : NodeKind) (children : List Tree) : List Tree :=
  let lead := (children.head?.map Tree.lead).getD []
  if (leadComments false lead).any fun comment => offDirectives.contains comment.text then children
  else
    let children := if groups && kind = .withBlock then groupContexts children else children
    let startsTuple := children.head?.any (·.isNode .starExpressions)
    optionalParts kind (marksBefore kind) startsTuple none children

/-! ## Expressions -/

/-- The tree is a sum or another arithmetic operation that a line may consist of. -/
def Tree.isOperation (t : Tree) : Bool :=
  t.isNode .sum || t.isNode .shift || t.isNode .bitXor || t.isNode .bitAnd

/-- The statements of a line with hidden parentheses around operations. -/
def arrangeLine (starts : Bool) : List Tree → List Tree
  | [] => []
  | t :: rest =>
    (if starts && t.isOperation then t.inParentheses true else t) ::
      arrangeLine (t.isMark ";") rest

/-- The parts of a function with hidden parentheses around its result. -/
def arrangeFunction (afterArrow : Bool) : List Tree → List Tree
  | [] => []
  | t :: rest =>
    let isOpen := t.isNode .atom && t.children.head?.any (·.isMark "(")
    (if !afterArrow then t
      else if isOpen then optionalParentheses .function false t
      else t.inParentheses true) ::
        arrangeFunction (t.isMark "->") rest

/-- The number needs parentheses in front of an attribute: it has no other base and is not
imaginary. -/
def Leaf.needsParentheses (l : Leaf) : Bool :=
  let t := l.text.map CodePoint.asciiLower
  l.kind = .number && !t.contains (CodePoint.ofChar 'j') &&
    !(["0x", "0b", "0o"].any fun s => (Text.ofString s).isPrefixOf t)

/-- The parts of a power with parentheses around numbers with attributes. -/
def arrangeNumbers : List Tree → List Tree
  | [] => []
  | [t] => [t]
  | t :: next :: rest =>
    let hasAttribute := next.isNode .trailer && next.children.head?.any (·.isMark ".")
    (if hasAttribute && t.isLeafWhere Leaf.needsParentheses then t.inParentheses false else t) ::
      arrangeNumbers (next :: rest)

/-- What is awaited needs its parentheses: it is an operation that is weaker than the waiting. -/
def Tree.isWeak : Tree → Bool
  | .leaf _ => false
  | .node kind children =>
    kind ≠ .power || children.head?.any (·.isWord "await") || children.any (·.isMark "**")

/-- The parts of a power with the parentheses behind a waiting hidden. -/
def arrangeWaiting (children : List Tree) : List Tree :=
  match children with
  | wait :: t :: rest =>
    if wait.isWord "await" && t.isNode .atom && t.children.head?.any (·.isMark "(") then
      match optionalParentheses .power true t with
      | .node .atom [first, inner, last] =>
        let shownIf (t : Tree) : Tree :=
          match t with
          | .leaf l => .leaf { l with hidden := l.hidden && !inner.isWeak }
          | t => t
        wait :: .node .atom [shownIf first, inner, shownIf last] :: rest
      | t => wait :: t :: rest
    else children
  | _ => children

/-- The children of a node with parentheses that are optional in it, or that it asks for, given the
neighbour in front of the node. -/
def arrangeChildren (groups : Bool) (kind : NodeKind) (previous : Option Tree)
    (children : List Tree) : List Tree :=
  match kind, children with
  | .simpleLine, _ => arrangeLine true children
  | .function, _ => arrangeFunction false children
  | .power, _ => arrangeWaiting (arrangeNumbers children)
  | .typedName, [own, colon, type] => [own, colon, optionalParentheses .typedName false type]
  | .atom, [first, inner, last] =>
    if first.isMark "(" || first.isMark "[" then
      [first, (hideParentheses .atom false inner).1, last]
    else children
  | .ternary, first :: rest =>
    if previous.any (·.isMark "(") then children
    else parenthesis "(" first.lead true :: first.withLead [] :: rest ++ [parenthesis ")" [] true]
  | .signed, [sign, operand] =>
    match operand with
    | .node .power [_, stars, _] =>
      if stars.isMark "**" then [sign, operand.inParentheses false] else children
    | _ => children
  | _, _ => if (marksBefore kind).isEmpty then children else arrangeStatement groups kind children

/-- A tree with its optional parentheses arranged from outside in, given the neighbour in front. -/
def arrange (groups : Bool) : (fuel : Nat) → (previous : Option Tree) → Tree → Tree
  | 0, _, t => t
  | _, _, .leaf l => .leaf l
  | fuel + 1, previous, .node kind children =>
    let children := arrangeChildren groups kind previous children
    let neighbours := none :: children.map some
    .node kind ((neighbours.zip children).map fun (before, t) => arrange groups fuel before t)

/-- The tree with its optional parentheses arranged, given whether contexts may be grouped. -/
def Tree.withOptionalParentheses (groups : Bool) (t : Tree) : Tree :=
  arrange groups (8 * t.leaves.length + 16) none t

end RecordGen.Source
