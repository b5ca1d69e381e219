import RecordGen.Source.Grammar.Pattern

/-!
# Statements

Readers for the statements of a line and for those that hold blocks.
-/

namespace RecordGen.Source.Grammar

open Reader

/-! ## Statements of a line -/

/-- The marks that change a variable in place. -/
def updateMarks : List String :=
  ["+=", "-=", "*=", "/=", "//=", "%=", "@=", "&=", "|=", "^=", ">>=", "<<=", "**="]

/-- The right side of an assignment: a value handed out, or expressions under a node of a kind. -/
def assignedValue (g : Grammar) (kind : NodeKind) : Reader Tree := do
  if ← seesWord "yield" then g.yielding else g.expressionList kind

/-- The values behind the targets of an assignment. All but the last are targets themselves. -/
def assignedValues (g : Grammar) (target : Tree) : (limit : Nat) → Reader (List Tree)
  | 0 => failure
  | limit + 1 => do
    if ← seesMark "=" then
      ensure target.isTargetList
      let equals ← mark "="
      let value ← g.assignedValue .starExpressions
      return equals :: value :: (← assignedValues g value limit)
    else return []

/-- An expression, an assignment, an update or an annotated name. -/
def expressionStatement (g : Grammar) : Reader Tree := do
  let first ← g.starExpressions
  if ← seesMark ":" then
    ensure first.isAnnotatable
    let colon ← mark ":"
    let type ← g.read .expression
    if ← seesMark "=" then
      let equals ← mark "="
      let value ← g.assignedValue .starExpressions
      return .node .assignment [first, .node .hint [colon, type, equals, value]]
    else return .node .assignment [first, .node .hint [colon, type]]
  else
    let update ← oneOf updateMarks
    if update.isEmpty then
      return .group .assignment (first :: (← g.assignedValues first g.limit))
    else
      ensure first.isSingleTarget
      return .node .assignment (first :: update ++ [← g.assignedValue .expressions])

/-- A name with attributes, as imports have it. -/
def importPath (g : Grammar) : Reader Tree := do
  g.chain .dottedName (optionalMark ".") name

/-- What is imported, with the name it gets. -/
def importedAs (kind : NodeKind) (own : Reader Tree) : Reader Tree := do
  let own ← own
  if ← seesWord "as" then
    let joint ← word "as"
    return .node kind [own, joint, ← name]
  else return own

def importStatement (g : Grammar) : Reader Tree := do
  let first ← word "import"
  let modules ←
    g.chain .dottedImports (optionalMark ",") (importedAs .dottedImport g.importPath)
  return .node .importName [first, modules]

/-- An import of names from a module, which may be given relative to the own one. -/
def importFromStatement (g : Grammar) : Reader Tree := do
  let first ← word "from"
  let dots ← many (optionalMark ".") g.limit
  let path ← if dots.isEmpty || (← sees Leaf.isName) then pure [← g.importPath] else pure []
  let joint ← word "import"
  let imported := importedAs .importedName name
  let names ←
    if ← seesMark "*" then pure [← mark "*"]
    else if ← seesMark "(" then
      let opening ← mark "("
      let names ← g.separated Leaf.isName do return [← imported]
      pure [opening, .group .importedNames names, ← mark ")"]
    else pure [← g.chain .importedNames (optionalMark ",") imported]
  return .node .importFrom (first :: dots ++ path ++ joint :: names)

def deletion (g : Grammar) : Reader Tree := do
  let first ← word "del"
  let targets := Tree.group .targets
    (← g.separated Leaf.startsExpression do return [← g.arithmetic])
  ensure (targets.isDeletable false)
  return .node .deletion [first, targets]

/-- The end of a function with its values, if it has any. -/
def returning (g : Grammar) : Reader Tree := do
  let first ← word "return"
  if ← sees Leaf.startsItem then return .node .returning [first, ← g.starExpressions]
  else return first

/-- A failure with its cause, if it has one. -/
def raising (g : Grammar) : Reader Tree := do
  let first ← word "raise"
  if ← sees Leaf.startsExpression then
    let failure ← g.read .expression
    if ← seesWord "from" then
      let joint ← word "from"
      return .node .raising [first, failure, joint, ← g.read .expression]
    else return .node .raising [first, failure]
  else return first

/-- A condition that must hold, with its message if it has one. -/
def assertion (g : Grammar) : Reader Tree := do
  let first ← word "assert"
  let condition ← g.read .expression
  if ← seesMark "," then
    let comma ← mark ","
    return .node .assertion [first, condition, comma, ← g.read .expression]
  else return .node .assertion [first, condition]

/-- Names that belong to an outer function or to the module. -/
def scopeNames (g : Grammar) : Reader Tree := do
  let first ← take fun l => l.isWord "global" || l.isWord "nonlocal"
  match ← g.chain .scopeNames (optionalMark ",") name with
  | .node _ names => return .node .scopeNames (first :: names)
  | own => return .node .scopeNames [first, own]

def isPlainStatement (l : Leaf) : Bool := l.isWord "pass" || l.isWord "break" || l.isWord "continue"

def smallStatement (g : Grammar) : Reader Tree := do
  if ← sees isPlainStatement then take isPlainStatement
  else if ← seesWord "return" then g.returning
  else if ← seesWord "raise" then g.raising
  else if ← seesWord "yield" then g.yielding
  else if ← seesWord "del" then g.deletion
  else if ← seesWord "assert" then g.assertion
  else if ← seesWord "import" then g.importStatement
  else if ← seesWord "from" then g.importFromStatement
  else if (← seesWord "global") || (← seesWord "nonlocal") then g.scopeNames
  else g.expressionStatement

/-- Statements with semicolons between them and perhaps behind them, up to the end of the line. -/
def smallStatements (g : Grammar) : (limit : Nat) → Reader (List Tree)
  | 0 => failure
  | limit + 1 => do
    let first ← g.smallStatement
    let isEnd (l : Leaf) : Bool := l.kind = .lineEnd
    if ← seesMark ";" then
      let semicolon ← mark ";"
      if ← sees isEnd then return [first, semicolon, ← take isEnd]
      else return first :: semicolon :: (← smallStatements g limit)
    else return [first, ← take isEnd]

def simpleLine (g : Grammar) : Reader Tree := do
  return .node .simpleLine (← g.smallStatements g.limit)

/-! ## Statements with blocks -/

/-- Parts of one sort in a block of their own. -/
def indented (g : Grammar) (part : Reader Tree) : Reader (List Tree) := do
  let lineEnd ← take (·.kind = .lineEnd)
  let indent ← take (·.kind = .indent)
  let first ← part
  let isEnd (l : Leaf) : Bool := l.kind = .dedent
  let step : Reader (List Tree) := do
    if ← sees isEnd then return [] else return [← part]
  let rest ← many step g.limit
  return lineEnd :: indent :: first :: rest ++ [← take isEnd]

/-- A colon and the statements under it. -/
def suite (g : Grammar) : Reader (List Tree) := do
  let colon ← mark ":"
  if ← sees (·.kind = .lineEnd) then
    return [colon, .node .block (← g.indented (g.read .statement))]
  else return [colon, ← g.simpleLine]

/-- A word with a block, if the word is in front. -/
def wordSuite (g : Grammar) (s : String) : Reader (List Tree) := do
  if ← seesWord s then
    let first ← word s
    return first :: (← g.suite)
  else return []

/-- A choice between blocks. -/
def conditional (g : Grammar) : Reader Tree := do
  let branch (s : String) : Reader (List Tree) := do
    let first ← word s
    let condition ← g.named
    return first :: condition :: (← g.suite)
  let first ← branch "if"
  let step : Reader (List Tree) := do
    if ← seesWord "elif" then branch "elif" else return []
  let others ← many step g.limit
  return .node .conditional (first ++ others ++ (← g.wordSuite "else"))

/-- A loop under a condition. -/
def whileLoop (g : Grammar) : Reader Tree := do
  let first ← word "while"
  let condition ← g.named
  let body ← g.suite
  return .node .whileLoop (first :: condition :: body ++ (← g.wordSuite "else"))

/-- A loop over values. -/
def forLoop (g : Grammar) : Reader Tree := do
  let first ← word "for"
  let targets ← g.loopTargets
  let source ← word "in"
  let items ← g.starExpressions
  let body ← g.suite
  return .node .forLoop ([first, targets, source, items] ++ body ++ (← g.wordSuite "else"))

/-- A handler of failures. The star tells that it takes a part of a group. -/
def exceptClause (g : Grammar) (starred : Bool) : Reader (List Tree) := do
  if ← seesWord "except" then
    let first ← word "except"
    let star ← optionalMark "*"
    ensure (starred == !star.isEmpty)
    if star.isEmpty && (← seesMark ":") then return first :: (← g.suite)
    else
      let kind ← g.read .expression
      let binding ←
        if ← seesWord "as" then
          let joint ← word "as"
          pure [joint, ← name]
        else pure []
      return .node .exceptClause (first :: star ++ kind :: binding) :: (← g.suite)
  else return []

/-- A block with handlers of its failures. -/
def tryBlock (g : Grammar) : Reader Tree := do
  let first ← word "try"
  let body ← g.suite
  let starred ← seesBehind (·.isMark "*")
  let handlers ← many (g.exceptClause starred) g.limit
  let other ← if handlers.isEmpty then pure [] else g.wordSuite "else"
  let final ← g.wordSuite "finally"
  ensure (!handlers.isEmpty || !final.isEmpty)
  return .node .tryBlock (first :: body ++ handlers ++ other ++ final)

/-- A context, with the variable for it if it has one. -/
def context (g : Grammar) : Reader (List Tree) := do
  let own ← g.read .expression
  if ← seesWord "as" then
    let joint ← word "as"
    let target ← g.arithmetic
    ensure (target.isTarget .alone)
    return [.node .namedContext [own, joint, target]]
  else return [own]

/-- Contexts in parentheses in front of a colon. -/
def contextGroup (g : Grammar) : Reader (List Tree) := do
  let opening ← mark "("
  let contexts ← g.separated Leaf.startsExpression g.context
  let closing ← mark ")"
  ensure (← seesMark ":")
  return [.node .atom [opening, .group .groupItems contexts, closing]]

def withBlock (g : Grammar) : Reader Tree := do
  let first ← word "with"
  let plain : Reader (List Tree) := do
    let first ← g.context
    let step : Reader (List Tree) := do
      if ← seesMark "," then
        let comma ← mark ","
        return comma :: (← g.context)
      else return []
    return first ++ (← many step g.limit)
  let contexts ← g.contextGroup <|> plain
  return .node .withBlock (first :: contexts ++ (← g.suite))

def function (g : Grammar) : Reader Tree := do
  let first ← word "def"
  let own ← name
  let parameters ← g.parameters
  let result ←
    if ← seesMark "->" then
      let arrow ← mark "->"
      pure [arrow, ← g.read .expression]
    else pure []
  return .node .function (first :: own :: parameters :: result ++ (← g.suite))

def classBlock (g : Grammar) : Reader Tree := do
  let first ← word "class"
  let own ← name
  let bases ←
    if ← seesMark "(" then
      let opening ← mark "("
      let inside ← g.argumentsInside true
      pure (opening :: inside ++ [← mark ")"])
    else pure []
  return .node .classBlock (first :: own :: bases ++ (← g.suite))

/-- A function, a loop or contexts that may be suspended. -/
def asyncBlock (g : Grammar) (functionOnly : Bool) : Reader Tree := do
  let first ← word "async"
  if ← seesWord "def" then
    let kind := if functionOnly then .asyncFunction else .asyncBlock
    return .node kind [first, ← g.function]
  else
    ensure (!functionOnly)
    if ← seesWord "for" then return .node .asyncBlock [first, ← g.forLoop]
    else return .node .asyncBlock [first, ← g.withBlock]

/-- A function or a class behind decorators. -/
def decorated (g : Grammar) : Reader Tree := do
  let step : Reader (List Tree) := do
    if ← seesMark "@" then
      let first ← mark "@"
      let own ← g.named
      return [.node .decorator [first, own, ← take (·.kind = .lineEnd)]]
    else return []
  let decorators ← many step g.limit
  let own ←
    if ← seesWord "class" then g.classBlock
    else if ← seesWord "async" then g.asyncBlock true
    else g.function
  return .node .decorated [.group .decorators decorators, own]

/-- A case with its patterns, its condition if it has one, and its block. -/
def caseBlock (g : Grammar) : Reader Tree := do
  let first ← word "case"
  let patterns ← g.casePatterns
  let condition ←
    if ← seesWord "if" then
      let first ← word "if"
      pure [.node .caseGuard [first, ← g.named]]
    else pure []
  return .node .caseBlock (first :: patterns :: condition ++ (← g.suite))

/-- A distinction of cases. -/
def matchBlock (g : Grammar) : Reader Tree := do
  let first ← word "match"
  let subject := Tree.group .subjects
    (← g.separated Leaf.startsItem do return [← g.namedItem])
  ensure (!subject.isNode .starred)
  let colon ← mark ":"
  return .node .matchBlock (first :: subject :: colon :: (← g.indented g.caseBlock))

/-- A statement. A line may start with the name `match` without distinguishing cases. -/
def statement (g : Grammar) : Reader Tree := do
  if ← seesWord "if" then g.conditional
  else if ← seesWord "while" then g.whileLoop
  else if ← seesWord "for" then g.forLoop
  else if ← seesWord "try" then g.tryBlock
  else if ← seesWord "with" then g.withBlock
  else if ← seesWord "def" then g.function
  else if ← seesWord "class" then g.classBlock
  else if ← seesWord "async" then g.asyncBlock false
  else if ← seesMark "@" then g.decorated
  else if ← seesWord "match" then g.matchBlock <|> g.simpleLine
  else g.simpleLine

/-! ## Texts -/

/-- How the parts of each rule are read, parts inside of parts up to a depth. -/
def readRule (limit : Nat) : (depth : Nat) → Rule → Reader Tree
  | 0, _ => failure
  | depth + 1, rule =>
    let g : Grammar := ⟨limit, readRule limit depth⟩
    match rule with
    | .expression => g.expression
    | .inversion => g.inversion
    | .factor => g.factor
    | .pattern => g.innerPattern
    | .statement => g.statement

/-- All statements up to the end. -/
def wholeText (g : Grammar) : Reader Tree := do
  let isEnd (l : Leaf) : Bool := l.kind = .finish
  let step : Reader (List Tree) := do
    if ← sees isEnd then return [] else return [← g.read .statement]
  let statements ← many step g.limit
  return .node .text (statements ++ [← take isEnd])

end RecordGen.Source.Grammar
