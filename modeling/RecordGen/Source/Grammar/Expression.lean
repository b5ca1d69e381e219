import RecordGen.Source.Interpolation
import RecordGen.Source.Grammar.Parameters
import RecordGen.Source.Grammar.Target

/-!
# Expressions

Readers for expressions, from the weakest operators to names, literals and displays.
-/

namespace RecordGen.Source

/-- The words an expression can start with that are no names. -/
def expressionWords : List Text :=
  ["False", "None", "True", "await", "lambda", "not"].map Text.ofString

def expressionMarks : List Text := ["(", "[", "\x7b", "-", "+", "~", "."].map Text.ofString

/-- The leaf is a word for a value. -/
def Leaf.isConstant (l : Leaf) : Bool := l.isWord "True" || l.isWord "False" || l.isWord "None"

def Leaf.startsExpression (l : Leaf) : Bool :=
  match l.kind with
  | .number => true
  | .string => true
  | .word => l.isName || expressionWords.contains l.text
  | .mark => expressionMarks.contains l.text
  | _ => false

/-- An expression, or a star in front of one, can start with the leaf. -/
def Leaf.startsItem (l : Leaf) : Bool := l.startsExpression || l.isMark "*"

/-- An argument or an item between braces can start with the leaf. -/
def Leaf.startsArgument (l : Leaf) : Bool := l.startsItem || l.isMark "**"

def Leaf.startsSubscript (l : Leaf) : Bool := l.startsItem || l.isMark ":"

namespace Grammar

open Reader

/-! ## Operators -/

def oneOf (marks : List String) : Reader (List Tree) := do
  if ← sees fun l => marks.any l.isMark then return [← take fun _ => true] else return []

/-- A certain word, if it is in front. -/
def optionalWord (s : String) : Reader (List Tree) := do
  if ← seesWord s then return [← word s] else return []

/-- The operators on numbers and sets, the weakest first. -/
def operators : List (NodeKind × List String) :=
  [(.bitOr, ["|"]), (.bitXor, ["^"]), (.bitAnd, ["&"]), (.shift, ["<<", ">>"]),
    (.sum, ["+", "-"]), (.product, ["*", "/", "//", "%", "@"])]

/-- Operands with operators of some strengths between them. -/
def operations (g : Grammar) : List (NodeKind × List String) → Reader Tree
  | [] => g.read .factor
  | (kind, marks) :: tighter => g.chain kind (oneOf marks) (operations g tighter)

/-- An expression of operators on numbers and sets. -/
def arithmetic (g : Grammar) : Reader Tree := operations g operators

/-- The sign of a comparison, if one is in front. -/
def comparator : Reader (List Tree) := do
  if ← seesWord "is" then
    let first ← word "is"
    if ← seesWord "not" then return [.node .comparator [first, ← word "not"]]
    else return [first]
  else if ← seesWord "not" then
    if ← seesBehind (·.isWord "in") then
      let first ← word "not"
      return [.node .comparator [first, ← word "in"]]
    else return []
  else if ← seesWord "in" then return [← word "in"]
  else oneOf ["==", "!=", "<", "<=", ">", ">="]

/-- A comparison, or the negation of one. -/
def inversion (g : Grammar) : Reader Tree := do
  if ← seesWord "not" then
    let first ← word "not"
    return .node .negation [first, ← g.read .inversion]
  else g.chain .comparison comparator g.arithmetic

/-- Alternatives of conjunctions. -/
def disjunction (g : Grammar) : Reader Tree :=
  g.chain .disjunction (optionalWord "or")
    (g.chain .conjunction (optionalWord "and") (g.read .inversion))

/-- An anonymous function, a choice between two expressions, or a disjunction. -/
def expression (g : Grammar) : Reader Tree := do
  if ← seesWord "lambda" then
    let first ← word "lambda"
    let parameters ← g.lambdaParameters
    let colon ← mark ":"
    return .node .lambda (first :: parameters ++ [colon, ← g.read .expression])
  else
    let first ← g.disjunction
    if ← seesWord "if" then
      let condition ← word "if"
      let test ← g.disjunction
      let other ← word "else"
      return .node .ternary [first, condition, test, other, ← g.read .expression]
    else return first

/-- An expression behind a star. -/
def starred (g : Grammar) : Reader Tree := do
  let star ← mark "*"
  return .node .starred [star, ← g.arithmetic]

/-- An expression, or a star and an expression. -/
def starItem (g : Grammar) : Reader Tree := do
  if ← seesMark "*" then g.starred else g.read .expression

/-- Expressions with commas between them, stars allowed, under a node of a kind. -/
def expressionList (g : Grammar) (kind : NodeKind) : Reader Tree := do
  return .group kind (← g.separated Leaf.startsItem do return [← g.starItem])

/-- Expressions with commas between them, stars allowed. -/
def starExpressions (g : Grammar) : Reader Tree := g.expressionList .starExpressions

/-- An expression that may get a name: the expression alone, or the name, its mark and the
expression. -/
def namedParts (g : Grammar) : Reader (List Tree) := do
  if (← sees Leaf.isName) && (← seesBehind (·.isMark ":=")) then
    let own ← name
    let mark ← mark ":="
    return [own, mark, ← g.read .expression]
  else return [← g.read .expression]

/-- An expression that may get a name. -/
def named (g : Grammar) : Reader Tree := do return .group .named (← g.namedParts)

/-- An expression that may get a name, or a star and an expression. -/
def namedItem (g : Grammar) : Reader Tree := do
  if ← seesMark "*" then g.starred else g.named

/-- A value handed out: alone, from another source, or some expressions. -/
def yielding (g : Grammar) : Reader Tree := do
  let first ← word "yield"
  if ← seesWord "from" then
    let source ← word "from"
    return .node .yielding [first, .node .yieldFrom [source, ← g.read .expression]]
  else if ← sees Leaf.startsItem then return .node .yielding [first, ← g.starExpressions]
  else return first

/-! ## Comprehensions -/

/-- Variables with commas between them, as a loop has them. -/
def loopTargets (g : Grammar) : Reader Tree := do
  let item : Reader (List Tree) := do
    if ← seesMark "*" then return [← g.starred] else return [← g.arithmetic]
  let targets := Tree.group .targets (← g.separated Leaf.startsItem item)
  ensure targets.isTargetList
  return targets

def seesComprehension : Reader Bool := do
  if ← seesWord "for" then return true
  else return (← seesWord "async") && (← seesBehind (·.isWord "for"))

/-- The loops and filters of a comprehension, each inside of the one before. -/
def comprehension (g : Grammar) : (limit : Nat) → Reader (List Tree)
  | 0 => failure
  | limit + 1 => do
    if ← seesComprehension then
      let wait ← optionalWord "async"
      let first ← word "for"
      let targets ← g.loopTargets
      let source ← word "in"
      let items ← g.disjunction
      return [.node .comprehension
        (wait ++ [first, targets, source, items] ++ (← comprehension g limit))]
    else if ← seesWord "if" then
      let first ← word "if"
      let condition ← g.disjunction
      return [.node .comprehensionFilter ([first, condition] ++ (← comprehension g limit))]
    else return []

/-! ## Calls and subscripts -/

def argument (g : Grammar) : Reader (List Tree) := do
  if (← seesMark "*") || (← seesMark "**") then
    let stars ← take fun _ => true
    return [.node .argument [stars, ← g.read .expression]]
  else if (← sees Leaf.isName) && (← seesBehind (·.isMark "=")) then
    let own ← name
    let equals ← mark "="
    return [.node .argument [own, equals, ← g.read .expression]]
  else
    let parts ← g.namedParts
    if ← seesComprehension then
      return [.node .argument (parts ++ (← g.comprehension g.limit))]
    else return [.group .argument parts]

end Grammar

namespace Tree

/-- An argument behind a mark of one or two stars. -/
def isStarArgument (mark : String) : Tree → Bool
  | .node .argument (first :: _) => first.isMark mark
  | _ => false

def isNamedArgument : Tree → Bool
  | .node .argument [_, equals, _] => equals.isMark "="
  | _ => false

/-- An argument that is a comprehension without parentheses. -/
def isBareComprehension : Tree → Bool
  | .node .argument children => children.any (·.isNode .comprehension)
  | _ => false

/-- Arguments are in order: none without a name behind one with a name, and only named ones behind
two stars. -/
def argumentsOrdered (afterName afterStars : Bool) : List Tree → Bool
  | [] => true
  | t :: rest =>
    if t.isMark "," then argumentsOrdered afterName afterStars rest
    else if t.isStarArgument "**" then argumentsOrdered afterName true rest
    else if t.isNamedArgument then argumentsOrdered true afterStars rest
    else if t.isStarArgument "*" then !afterStars && argumentsOrdered afterName afterStars rest
    else !afterName && !afterStars && argumentsOrdered afterName afterStars rest

end Tree

namespace Grammar

open Reader

/-- The arguments between the parentheses of a call. A comprehension without parentheses of its own
is the only argument, and a class has none. -/
def argumentsInside (g : Grammar) (ofClass : Bool) : Reader (List Tree) := do
  if ← seesMark ")" then return []
  else
    let items ← g.separated Leaf.startsArgument g.argument
    ensure (Tree.argumentsOrdered false false items)
    ensure (!items.any Tree.isBareComprehension || (!ofClass && items.length = 1))
    return [.group .arguments items]

/-- One part of a subscript: an expression, a starred one, or a slice. -/
def subscript (g : Grammar) : Reader (List Tree) := do
  if ← seesMark "*" then
    let star ← mark "*"
    return [.node .starred [star, ← g.read .expression]]
  else
    let lower ← if ← seesMark ":" then pure [] else g.namedParts
    if lower.length ≤ 1 && (← seesMark ":") then
      let bound : Reader (List Tree) := do
        if ← sees Leaf.startsExpression then return [← g.read .expression] else return []
      let colon ← mark ":"
      let upper ← bound
      if ← seesMark ":" then
        let second ← mark ":"
        let step := Tree.group .sliceStep (second :: (← bound))
        return [.node .slice (lower ++ colon :: upper ++ [step])]
      else return [.group .slice (lower ++ colon :: upper)]
    else return [.group .slice lower]

/-- A call, a subscript or an attribute behind an expression, if one is in front. -/
def trailer (g : Grammar) : Reader (List Tree) := do
  if ← seesMark "." then
    let dot ← mark "."
    return [.node .trailer [dot, ← name]]
  else if ← seesMark "(" then
    let opening ← mark "("
    let inside ← g.argumentsInside false
    return [.node .trailer (opening :: inside ++ [← mark ")"])]
  else if ← seesMark "[" then
    let opening ← mark "["
    let inside := Tree.group .subscripts (← g.separated Leaf.startsSubscript g.subscript)
    return [.node .trailer [opening, inside, ← mark "]"]]
  else return []

/-! ## Displays and literals -/

/-- The inside of parentheses or square brackets behind its first item: a comprehension, further
items, or nothing. -/
def displayRest (g : Grammar) (kind : NodeKind) (first : Tree) : Reader Tree := do
  if ← seesComprehension then
    ensure (!first.isNode .starred)
    return .node kind (first :: (← g.comprehension g.limit))
  else
    let rest ← moreItems Leaf.startsItem (do return [← g.namedItem]) g.limit
    return .group kind (first :: rest)

/-- Something in parentheses: nothing, a value handed out, an expression, or several. -/
def parenthesized (g : Grammar) : Reader Tree := do
  let opening ← mark "("
  if ← seesMark ")" then return .node .atom [opening, ← mark ")"]
  else if ← seesWord "yield" then
    let inside ← g.yielding
    return .node .atom [opening, inside, ← mark ")"]
  else
    let first ← g.namedItem
    let inside ← g.displayRest .groupItems first
    ensure (!inside.isNode .starred)
    return .node .atom [opening, inside, ← mark ")"]

def listDisplay (g : Grammar) : Reader Tree := do
  let opening ← mark "["
  if ← seesMark "]" then return .node .atom [opening, ← mark "]"]
  else
    let first ← g.namedItem
    let inside ← g.displayRest .listItems first
    return .node .atom [opening, inside, ← mark "]"]

/-- What an item between braces is. -/
inductive BraceItem where
  | element
  | pair
  | spread
  /-- A starred element. -/
  | unpacked
deriving DecidableEq, Repr

/-- An item between braces, with its sort. -/
def braceItem (g : Grammar) : Reader (List Tree × BraceItem) := do
  if ← seesMark "**" then
    let stars ← mark "**"
    return ([stars, ← g.arithmetic], .spread)
  else if ← seesMark "*" then return ([← g.starred], .unpacked)
  else
    let parts ← g.namedParts
    if parts.length = 1 && (← seesMark ":") then
      let colon ← mark ":"
      return (parts ++ [colon, ← g.read .expression], .pair)
    else return (parts, .element)

/-- A dictionary or a set. -/
def braceDisplay (g : Grammar) : Reader Tree := do
  let opening ← mark "\x7b"
  if ← seesMark "\x7d" then return .node .atom [opening, ← mark "\x7d"]
  else
    let (first, sort) ← g.braceItem
    let ofPairs := sort = .pair || sort = .spread
    let rest ←
      if (sort = .element || sort = .pair) && (← seesComprehension) then g.comprehension g.limit
      else
        let item : Reader (List Tree) := do
          let (own, sort) ← g.braceItem
          ensure ((sort = .pair || sort = .spread) == ofPairs)
          return own
        moreItems Leaf.startsArgument item g.limit
    return .node .atom [opening, .group .braceItems (first ++ rest), ← mark "\x7d"]

/-- The text of an expression inside of a literal is one. -/
def fieldFits (g : Grammar) (field : Text) : Bool :=
  let t := endLine (CodePoint.ofChar '(' :: field ++ [CodePoint.ofChar ')'])
  match flatLeaves? (t.length + 1) [] false t with
  | none => false
  | some leaves =>
    match (g.read .expression).run leaves with
    | some (_, rest) => rest.map Leaf.kind = [.lineEnd, .finish]
    | none => false

/-- A literal is well formed. -/
def literalFits (g : Grammar) (l : Literal) : Bool :=
  if l.isInterpolated then
    match l.fields? with
    | some fields => fields.all g.fieldFits
    | none => false
  else l.isPlain

/-- String literals one after the other; octets do not mix with text. -/
def strings (g : Grammar) : Reader Tree := do
  let isString (l : Leaf) : Bool := l.kind = .string
  let step : Reader (List Tree) := do
    if ← sees isString then return [← take isString] else return []
  let parts ← many step g.limit
  let literals := (Tree.allLeaves parts).map fun l => Literal.ofText l.text
  ensure (literals.all g.literalFits)
  ensure (literals.all Literal.isOctets || !literals.any Literal.isOctets)
  return .group .atom parts

/-- Three points in a row. -/
def ellipsis : Reader Tree := do
  let first ← mark "."
  let close (l : Leaf) : Bool := l.isMark "." && l.lead.isEmpty
  let second ← take close
  return .node .atom [first, second, ← take close]

/-- A name, a literal, a display or something in parentheses. -/
def atom (g : Grammar) : Reader Tree := do
  if ← seesMark "(" then g.parenthesized
  else if ← seesMark "[" then g.listDisplay
  else if ← seesMark "\x7b" then g.braceDisplay
  else if ← seesMark "." then ellipsis
  else if ← sees (·.kind = .string) then g.strings
  else take fun l => l.kind = .number || l.isName || l.isConstant

/-- An atom with its trailers, perhaps awaited, perhaps raised to a power. -/
def power (g : Grammar) : Reader Tree := do
  let wait ← optionalWord "await"
  let first ← g.atom
  let trailers ← many g.trailer g.limit
  let operand := wait ++ first :: trailers
  if ← seesMark "**" then
    let stars ← mark "**"
    return .node .power (operand ++ [stars, ← g.read .factor])
  else return .group .power operand

/-- A power, or a signed factor. -/
def factor (g : Grammar) : Reader Tree := do
  let sign ← oneOf ["+", "-", "~"]
  if sign.isEmpty then g.power else return .node .signed (sign ++ [← g.read .factor])

end Grammar
end RecordGen.Source
