import RecordGen.Source.Literal
import RecordGen.Source.Numeral

/-!
# Leaves of a text

A text as leaves: first words, numbers, strings, marks and line ends, then the beginnings and ends of
blocks, which the margins of the lines tell. Nothing of the text is lost: blanks, comments and joined
lines stand in the lead of the leaf behind them.
-/

namespace RecordGen.Source

/-- Why a text is not even looked at, or is no code. -/
inductive Fault where
  /-- The text holds a lone surrogate, so it cannot be encoded. -/
  | unencodable
  /-- The text holds U+0000. -/
  | nullCharacter
  | invalidSyntax
deriving DecidableEq, Repr

/-! ## Leads -/

def commentMark : CodePoint := CodePoint.ofChar '#'

/-- Stands between leaves of a line without a meaning: a space, a tab or a form feed. -/
def isGap (c : CodePoint) : Bool :=
  c = CodePoint.space || c = CodePoint.tab || c = CodePoint.formFeed

/-- What stands before the first leaf of a text, and the text from that leaf on. Line ends belong to
the lead only where they are told to; a backslash joins a line with the next one, which must exist. -/
def leadSpan? (keepsLines inComment : Bool) : Text → Option (Text × Text)
  | [] => some ([], [])
  | c :: rest =>
    if c = CodePoint.lineFeed then
      if keepsLines then
        (leadSpan? keepsLines false rest).map fun (lead, after) => (c :: lead, after)
      else some ([], c :: rest)
    else if inComment || c = commentMark then
      (leadSpan? keepsLines true rest).map fun (lead, after) => (c :: lead, after)
    else if isGap c then
      (leadSpan? keepsLines false rest).map fun (lead, after) => (c :: lead, after)
    else if c = backslash then
      match rest with
      | d :: e :: others =>
        if d = CodePoint.lineFeed then
          (leadSpan? keepsLines false (e :: others)).map fun (lead, after) =>
            (c :: d :: lead, after)
        else none
      | _ => none
    else some ([], c :: rest)

/-! ## Words, numbers, strings and marks -/

/-- The marks of the language, the longer ones first. -/
def marks : List Text :=
  ["**=", "//=", ">>=", "<<=", "**", "//", ">>", "<<", "->", ":=", "==", "!=", "<=", ">=", "+=",
    "-=", "*=", "/=", "%=", "&=", "|=", "^=", "@=", "(", ")", "[", "]", "\x7b", "\x7d", ":", ",",
    ";", "+", "-", "*", "/", "|", "&", "<", ">", "=", ".", "%", "~", "^", "@"].map Text.ofString

/-- A point and a digit start a text. -/
def startsFraction : Text → Bool
  | c :: rest => c = CodePoint.ofChar '.' && startsDigit rest
  | [] => false

/-- The letters at the start of a text may stand before the quote behind them. -/
def startsLiteral (letters after : Text) : Bool :=
  after.head?.any isQuoteMark &&
    (letters.isEmpty || literalMarks.contains (letters.map CodePoint.asciiLower))

/-- The leaf at the start of a text, without a lead, and what follows it. -/
def leafAt? (t : Text) : Option (Leaf × Text) :=
  if startsDigit t || startsFraction t then
    (numeral? t).map fun (text, after) => (⟨.number, text, [], false⟩, after)
  else
    let letters := t.takeWhile isWordPoint
    let after := t.drop letters.length
    if startsLiteral letters after then
      (quoted? letters after).map fun (literal, after) => (⟨.string, literal.text, [], false⟩, after)
    else if !letters.isEmpty then
      if Unicode.isIdentifier letters then some (⟨.word, letters, [], false⟩, after) else none
    else
      (marks.find? fun mark => mark.isPrefixOf t).map fun mark =>
        (⟨.mark, mark, [], false⟩, t.drop mark.length)

/-- The greatest number of brackets that may be open at once. -/
def maxOpenBrackets : Nat := 200

/-- The brackets that are still to be closed behind a leaf, innermost first. -/
def openBrackets? (pending : List Text) (l : Leaf) : Option (List Text) :=
  if l.kind ≠ .mark then some pending
  else
    match closing? l.text with
    | some close => if pending.length < maxOpenBrackets then some (close :: pending) else none
    | none =>
      if isClosing l.text then
        match pending with
        | close :: outer => if close = l.text then some outer else none
        | [] => none
      else some pending

/-- The leaves of a text, given the brackets that are open and whether its first line has started. A
line ends only outside brackets, and a line without leaves not at all. -/
def flatLeaves? : (fuel : Nat) → (pending : List Text) → (inLine : Bool) → Text → Option (List Leaf)
  | 0, _, _, _ => none
  | fuel + 1, pending, inLine, t => do
    let (lead, after) ← leadSpan? (!pending.isEmpty || !inLine) false t
    match after with
    | [] => if pending.isEmpty then return [⟨.finish, [], lead, false⟩] else none
    | c :: rest =>
      if c = CodePoint.lineFeed then
        let others ← flatLeaves? fuel [] false rest
        return ⟨.lineEnd, [c], lead, false⟩ :: others
      else
        let (leaf, after) ← leafAt? (c :: rest)
        let pending ← openBrackets? pending leaf
        let others ← flatLeaves? fuel pending true after
        return { leaf with lead } :: others

/-! ## Blocks -/

/-- The columns of a margin, with tabs to multiples of eight and with tabs one wide. Two margins
compare only where both counts agree. -/
structure Margin where
  columns : Nat
  narrow : Nat
deriving DecidableEq, Repr

def Margin.none : Margin := ⟨0, 0⟩

/-- The margin behind a margin with one more gap. A form feed starts over. -/
def Margin.behind (m : Margin) (c : CodePoint) : Margin :=
  if c = CodePoint.space then ⟨m.columns + 1, m.narrow + 1⟩
  else if c = CodePoint.tab then ⟨(m.columns / 8 + 1) * 8, m.narrow + 1⟩
  else .none

/-- The margin that a lead ends with, given the margin so far and the columns at the first backslash
that joined its last line to the one before. Those columns count if there are any. -/
def marginOf (m : Margin) (joined : Nat) (inComment : Bool) : Text → Margin
  | [] => if joined = 0 then m else ⟨joined, joined⟩
  | c :: rest =>
    if c = CodePoint.lineFeed then marginOf .none 0 false rest
    else if inComment || c = commentMark then marginOf m joined true rest
    else if c = backslash then
      match rest with
      | [] => m
      | _ :: others => marginOf m (if joined = 0 then m.columns else joined) false others
    else marginOf (m.behind c) joined false rest

/-- How many gaps stand at the start of a line. A form feed starts over. -/
def gapCount (count : Nat) : Text → Nat
  | [] => count
  | c :: rest =>
    if c = CodePoint.space || c = CodePoint.tab then gapCount (count + 1) rest
    else if c = CodePoint.formFeed then gapCount 0 rest
    else count

/-- The part of a lead that belongs to a block whose lines start behind a number of gaps: its
comments that are indented as deep, with the empty lines before each. The other lines, and what
follows the last line end, belong to what comes behind the block. -/
def blockPart (gaps : Nat) (empty : Text) : List Text → Text × Text
  | [] => ([], empty)
  | [last] => ([], empty ++ last)
  | line :: next :: rest =>
    let text := empty ++ Text.line line
    if line.all isGap then blockPart gaps text (next :: rest)
    else if gapCount 0 line < gaps then
      ([], text ++ Text.join [CodePoint.lineFeed] (next :: rest))
    else
      let (own, others) := blockPart gaps [] (next :: rest)
      (text ++ own, others)

/-- A block that is open: the margin of its lines, and the gaps in front of its first line. -/
structure Level where
  margin : Margin
  gaps : Nat
deriving DecidableEq, Repr

/-- The greatest number of blocks that may be open at once, the outermost text included. -/
def maxLevels : Nat := 100

/-- The ends of the blocks that a margin leaves, with their parts of a lead. What is left of the lead
and the blocks that stay open come with them. -/
def leaveBlocks (m : Margin) (lead : Text) : List Level → List Leaf × Text × List Level
  | [] => ([], lead, [])
  | level :: outer =>
    if m.columns < level.margin.columns then
      let (own, others) := blockPart level.gaps [] (lead.pieces CodePoint.lineFeed)
      let (ends, lead, levels) := leaveBlocks m others outer
      (⟨.dedent, [], own, false⟩ :: ends, lead, levels)
    else ([], lead, level :: outer)

/-- The leaves in front of the first leaf of a line, what is left of its lead, and the blocks that
are open from there on. A deeper margin opens a block, a margin that is less deep must be that of an
open block. -/
def enterLine? (levels : List Level) (lead : Text) :
    Option (List Leaf × Text × List Level) := do
  let top ← levels.head?
  let m := marginOf .none 0 false lead
  if top.margin.columns < m.columns then
    if top.margin.narrow < m.narrow && levels.length < maxLevels then
      let gaps := ((lead.pieces CodePoint.lineFeed).getLast?.getD []).length
      return ([⟨.indent, [], [], false⟩], lead, ⟨m, gaps⟩ :: levels)
    else none
  else
    let (ends, lead, levels) := leaveBlocks m lead levels
    let top ← levels.head?
    if top.margin = m then return (ends, lead, levels) else none

/-- Puts the beginnings and ends of blocks between leaves. -/
def blockLeaves? (levels : List Level) (atStart : Bool) : List Leaf → Option (List Leaf)
  | [] => some []
  | l :: rest =>
    if l.kind = .finish then
      let (ends, lead, _) := leaveBlocks .none l.lead levels
      some (ends ++ [{ l with lead }])
    else if atStart then do
      let (before, lead, levels) ← enterLine? levels l.lead
      return before ++ { l with lead } :: (← blockLeaves? levels (l.kind = .lineEnd) rest)
    else do
      return l :: (← blockLeaves? levels (l.kind = .lineEnd) rest)

/-- The text with a line feed at its end. -/
def endLine (t : Text) : Text :=
  if t.getLast? = some CodePoint.lineFeed || t.isEmpty then t else Text.line t

/-- The leaves of a text with unified line breaks. -/
def leaves? (t : Text) : Option (List Leaf) := do
  let t := endLine t
  let flat ← flatLeaves? (t.length + 1) [] false t
  blockLeaves? [⟨.none, 0⟩] true flat

end RecordGen.Source
