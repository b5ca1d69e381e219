import RecordGen.Source.Grammar.Expression

/-!
# Patterns

The patterns of a case: literals, names, dotted values, classes with their parts, sequences,
mappings, alternatives, and names for what a pattern meets.
-/

namespace RecordGen.Source.Grammar

open Reader

def startsPattern (l : Leaf) : Bool := l.startsItem || l.isMark "**"

def isImaginary (t : Tree) : Bool :=
  t.isLeafWhere fun l => l.kind = .number && (l.text.map CodePoint.asciiLower).getLast? =
    some (CodePoint.ofChar 'j')

/-- A name that a pattern binds. -/
def captured : Reader Tree := take fun l => l.isName && !l.isWord "_"

/-- A number, perhaps negative. -/
def signedNumber : Reader Tree := do
  let sign ← oneOf ["-"]
  let number ← take (·.kind = .number)
  return .group .signed (sign ++ [number])

/-- A number, or a real one and an imaginary one with a sign between them. -/
def numberPattern : Reader Tree := do
  let first ← signedNumber
  let sign ← oneOf ["+", "-"]
  if sign.isEmpty then return first
  else
    let second ← take (·.kind = .number)
    ensure (isImaginary second && !(first.children ++ [first]).any isImaginary)
    return .node .sum (first :: sign ++ [second])

/-- A name with attributes. -/
def dottedParts (g : Grammar) : Reader (List Tree) := do
  let first ← name
  let step : Reader (List Tree) := do
    if ← seesMark "." then
      let dot ← mark "."
      return [.node .trailer [dot, ← name]]
    else return []
  return first :: (← many step g.limit)

/-- A pattern among the arguments of a class, with its name if it has one. -/
def partPattern (g : Grammar) : Reader (List Tree) := do
  if (← sees Leaf.isName) && (← seesBehind (·.isMark "=")) then
    let own ← name
    let equals ← mark "="
    return [.node .argument [own, equals, ← g.read .pattern]]
  else
    match ← g.read .pattern with
    | .node .namedContext parts => return [.node .argument parts]
    | t => return [t]

/-- A name: a value if it has attributes, a class if it has arguments. -/
def namePattern (g : Grammar) : Reader Tree := do
  let parts ← g.dottedParts
  if ← seesMark "(" then
    let opening ← mark "("
    let inside ←
      if ← seesMark ")" then pure []
      else
        let items ← g.separated startsPattern g.partPattern
        ensure (Tree.argumentsOrdered false false items)
        pure [Tree.group .arguments items]
    return .node .power (parts ++ [.node .trailer (opening :: inside ++ [← mark ")"])])
  else
    ensure (!(← seesMark "="))
    return .group .power parts

def literalPattern (g : Grammar) : Reader Tree := do
  if ← sees (·.kind = .string) then g.strings
  else if ← sees Leaf.isConstant then take Leaf.isConstant
  else numberPattern

/-- An entry of a mapping, or its rest behind two stars. -/
def entryPattern (g : Grammar) : Reader (List Tree) := do
  if ← seesMark "**" then
    let stars ← mark "**"
    return [stars, ← captured]
  else
    let key ←
      if ← sees Leaf.isName then
        let parts ← g.dottedParts
        ensure (parts.length ≠ 1)
        pure (Tree.group .power parts)
      else g.literalPattern
    let colon ← mark ":"
    return [key, colon, ← g.read .pattern]

/-- The rest of a mapping comes last. -/
def restLast : List Tree → Bool
  | [] => true
  | [_] => true
  | stars :: rest =>
    if stars.isMark "**" then rest.length = 1 || (rest.length = 2 && (rest.drop 1).any (·.isMark ","))
    else restLast rest

/-- An item of a sequence: a pattern, or a star and a name. -/
def itemPattern (g : Grammar) : Reader (List Tree) := do
  if ← seesMark "*" then
    let star ← mark "*"
    return [.node .starred [star, ← name]]
  else return [← g.read .pattern]

/-- A pattern without alternatives at its top. -/
def closedPattern (g : Grammar) : Reader Tree := do
  if ← seesMark "(" then
    let opening ← mark "("
    if ← seesMark ")" then return .node .atom [opening, ← mark ")"]
    else
      let inside := Tree.group .groupItems (← g.separated startsPattern g.itemPattern)
      ensure (!inside.isNode .starred)
      return .node .atom [opening, inside, ← mark ")"]
  else if ← seesMark "[" then
    let opening ← mark "["
    if ← seesMark "]" then return .node .atom [opening, ← mark "]"]
    else
      let inside := Tree.group .listItems (← g.separated startsPattern g.itemPattern)
      return .node .atom [opening, inside, ← mark "]"]
  else if ← seesMark "\x7b" then
    let opening ← mark "\x7b"
    if ← seesMark "\x7d" then return .node .atom [opening, ← mark "\x7d"]
    else
      let items ← g.separated startsPattern g.entryPattern
      ensure (restLast items)
      return .node .atom [opening, .group .braceItems items, ← mark "\x7d"]
  else if ← sees Leaf.isName then g.namePattern
  else g.literalPattern

/-- A pattern with alternatives, and the name for what it meets if it has one. -/
def patternParts (g : Grammar) : Reader (List Tree) := do
  let first ← g.chain .bitOr (oneOf ["|"]) g.closedPattern
  if ← seesWord "as" then
    let joint ← word "as"
    return [first, joint, ← captured]
  else return [first]

/-- A pattern inside of another one. -/
def innerPattern (g : Grammar) : Reader Tree := do return .group .namedContext (← g.patternParts)

/-- The patterns of a case: one, or several with commas. -/
def casePatterns (g : Grammar) : Reader Tree := do
  let item : Reader (List Tree) := do
    if ← seesMark "*" then g.itemPattern else return [.group .pattern (← g.patternParts)]
  let patterns := Tree.group .patterns (← g.separated startsPattern item)
  ensure (!patterns.isNode .starred)
  return patterns

end RecordGen.Source.Grammar
