import RecordGen.Proofs.Source.Leaves
import RecordGen.Proofs.Source.Reading

/-!
# Reading lines of a class

What a line is read as that starts with a word and a colon. A name with an annotation is one
statement, and a number or a reserved word is none, with one exception: an anonymous function starts
with a reserved word, and its colon may follow at once.
-/

namespace RecordGen.Source.Grammar

open Reader

variable {g : Grammar} {l : Leaf} {leaves rest : List Leaf} {t : Tree}

/-! ## Lines of one statement -/

theorem only_separated
    {starts : Leaf → Bool} {item : Reader (List Tree)} {part : List Tree}
    (first : Only item leaves (some (part, rest)))
    (single : rest.head?.any (·.isMark ",") = false) :
    Only (g.separated starts item) leaves (some (part, rest)) := by
  have last : Only (moreItems starts item g.limit) rest (some ([], rest)) := by
    cases g.limit with
    | zero => exact Or.inl rfl
    | succ limit => exact .congr (run_unseenMark single) (.of_run rfl)
  refine Only.bind first (Only.bind last (.of_run ?_))
  rw [List.append_nil]
  rfl

theorem only_starExpressions
    (first : Only (g.read .expression) leaves (some (t, rest)))
    (unstarred : leaves.head?.any (·.isMark "*") = false)
    (single : rest.head?.any (·.isMark ",") = false) :
    Only g.starExpressions leaves (some (t, rest)) := by
  have item : Only g.starItem leaves (some (t, rest)) := .congr (run_unseenMark unstarred) first
  have part : Only (do return [← g.starItem]) leaves (some ([t], rest)) :=
    Only.bind item (.of_run rfl)
  exact Only.bind (only_separated part single) (.of_run rfl)

theorem run_starExpressions_none
    (missing : (g.read .expression).run leaves = none)
    (unstarred : leaves.head?.any (·.isMark "*") = false) :
    g.starExpressions.run leaves = none := by
  apply run_bind_none
  apply run_bind_none
  apply run_bind_none
  exact (run_unseenMark unstarred).trans missing

theorem run_expressionStatement_none
    (missing : (g.read .expression).run leaves = none)
    (unstarred : leaves.head?.any (·.isMark "*") = false) :
    g.expressionStatement.run leaves = none :=
  run_bind_none (run_starExpressions_none missing unstarred)

/-- None of some words is in front. -/
def Wordless (words : List String) (leaves : List Leaf) : Prop :=
  leaves.head?.any (fun l => words.any l.isWord) = false

theorem Wordless.word
    {words : List String}
    (wordless : Wordless words leaves)
    (s : String)
    (among : words.contains s = true) :
    leaves.head?.any (·.isWord s) = false := by
  refine any_head_of_imp (fun l word => ?_) wordless
  exact List.any_eq_true.mpr ⟨s, List.contains_iff_mem.mp among, word⟩

theorem unseen_of_kind
    {marks : List String}
    (noMark : leaves.head?.any (fun l => l.kind = .mark) = false) :
    Unseen marks leaves := by
  refine any_head_of_imp (fun l seen => ?_) noMark
  obtain ⟨mark, -, own⟩ := List.any_eq_true.mp seen
  simp [Leaf.eq_of_isMark own]

theorem only_annotated
    {colon : Leaf} {typeLeaves : List Leaf} {type : Tree}
    (first : Only g.starExpressions leaves (some (t, colon :: typeLeaves)))
    (mark : colon.isMark ":" = true)
    (typed : Only (g.read .expression) typeLeaves (some (type, rest)))
    (bare : rest.head?.any (·.isMark "=") = false) :
    Only g.expressionStatement leaves
      (if t.isAnnotatable then
        some (.node .assignment [t, .node .hint [.leaf colon, type]], rest)
      else none) := by
  have sight : (colon :: typeLeaves).head?.any (·.isMark ":") = true := mark
  have taken : (Reader.mark ":").run (colon :: typeLeaves) = some (.leaf colon, typeLeaves) := by
    rw [Reader.mark, run_take, if_pos mark]
  refine Only.bind first (.congr (run_seenMark sight) ?_)
  by_cases annotatable : t.isAnnotatable = true
  · rw [annotatable]
    refine Only.bind (only_ensure _) (Only.bind (.of_run taken) (Only.bind typed ?_))
    exact .congr (run_unseenMark bare) (.of_run rfl)
  · rw [Bool.not_eq_true] at annotatable
    rw [annotatable]
    exact Or.inl rfl

/-- The marks that go on with a statement behind an expression. -/
def statementMarks : List String := ":" :: "=" :: updateMarks

theorem only_expressionStatement
    (first : Only g.starExpressions leaves (some (t, rest)))
    (unseen : Unseen statementMarks rest) :
    Only g.expressionStatement leaves (some (t, rest)) := by
  have values : Only (g.assignedValues t g.limit) rest (some ([], rest)) := by
    cases g.limit with
    | zero => exact Or.inl rfl
    | succ limit => exact .congr (run_unseenMark (unseen.mark "=" (by decide))) (.of_run rfl)
  refine Only.bind first (.congr (run_unseenMark (unseen.mark ":" (by decide))) ?_)
  have updated : (oneOf updateMarks).run rest = some ([], rest) :=
    run_oneOf_stop (unseen.mono (by decide))
  exact Only.bind (.of_run updated) (Only.bind values (.of_run rfl))

/-- The words that start statements of a line. -/
def statementWords : List String :=
  ["pass", "break", "continue", "return", "raise", "yield", "del", "assert", "import", "from",
    "global", "nonlocal"]

theorem run_smallStatement_expression
    (wordless : Wordless statementWords leaves) :
    g.smallStatement.run leaves = g.expressionStatement.run leaves := by
  have noPlain : leaves.head?.any isPlainStatement = false := by
    refine any_head_of_imp (fun l seen => ?_) wordless
    simp only [isPlainStatement, Bool.or_eq_true] at seen
    rcases seen with (pass | brk) | continue_
    · exact List.any_eq_true.mpr ⟨"pass", by decide, pass⟩
    · exact List.any_eq_true.mpr ⟨"break", by decide, brk⟩
    · exact List.any_eq_true.mpr ⟨"continue", by decide, continue_⟩
  have noGlobal := wordless.word "global" (by decide)
  have noNonlocal := wordless.word "nonlocal" (by decide)
  rw [smallStatement, run_unseen noPlain, run_unseenWord (wordless.word "return" (by decide)),
    run_unseenWord (wordless.word "raise" (by decide)),
    run_unseenWord (wordless.word "yield" (by decide)),
    run_unseenWord (wordless.word "del" (by decide)),
    run_unseenWord (wordless.word "assert" (by decide)),
    run_unseenWord (wordless.word "import" (by decide)),
    run_unseenWord (wordless.word "from" (by decide))]
  simp only [seesWord, run_bind, run_sees, noGlobal, noNonlocal, Option.bind_some, Bool.or_self,
    Bool.false_eq_true, ↓reduceIte]

theorem only_simpleLine
    {ending : Leaf}
    (small : Only g.smallStatement leaves (some (t, ending :: rest)))
    (ends : ending.kind = .lineEnd) :
    Only g.simpleLine leaves (some (.node .simpleLine [t, .leaf ending], rest)) := by
  have noSemicolon : (ending :: rest).head?.any (·.isMark ";") = false :=
    Leaf.isMark_of_kind (by simp [ends])
  have taken : (take (·.kind = .lineEnd)).run (ending :: rest) = some (.leaf ending, rest) := by
    simp [run_take, ends]
  have line : Only (g.smallStatements g.limit) leaves (some ([t, .leaf ending], rest)) := by
    cases g.limit with
    | zero => exact Or.inl rfl
    | succ limit =>
        refine Only.bind small (.congr (run_unseenMark noSemicolon) ?_)
        exact Only.bind (.of_run taken) (.of_run rfl)
  exact Only.bind line (.of_run rfl)

theorem run_simpleLine_none
    (small : Only g.smallStatement leaves (some (t, rest)))
    (further : rest.head?.any (fun l => l.kind = .lineEnd || l.isMark ";") = false) :
    g.simpleLine.run leaves = none := by
  have noSemicolon : rest.head?.any (·.isMark ";") = false :=
    any_head_of_imp (fun l seen => by simp [seen]) further
  have noEnd : rest.head?.any (fun l => l.kind = .lineEnd) = false :=
    any_head_of_imp (fun l seen => by simpa using Or.inl (by simpa using seen)) further
  apply run_bind_none
  cases g.limit with
  | zero => rfl
  | succ limit =>
      apply Only.run_eq_none
      refine Only.bind small (.congr (run_unseenMark noSemicolon) ?_)
      exact .of_run (run_bind_none (run_take_none noEnd))

theorem run_simpleLine_eq_none
    (missing : g.smallStatement.run leaves = none) :
    g.simpleLine.run leaves = none := by
  apply run_bind_none
  cases g.limit with
  | zero => rfl
  | succ limit => exact run_bind_none missing

/-- The words that start statements with blocks. -/
def blockWords : List String :=
  ["if", "while", "for", "try", "with", "def", "class", "async"]

theorem run_statement_line
    (wordless : Wordless blockWords leaves)
    (noDecorator : leaves.head?.any (·.isMark "@") = false)
    (noMatch : leaves.head?.any (·.isWord "match") = true → g.matchBlock.run leaves = none) :
    g.statement.run leaves = g.simpleLine.run leaves := by
  rw [statement, run_unseenWord (wordless.word "if" (by decide)),
    run_unseenWord (wordless.word "while" (by decide)),
    run_unseenWord (wordless.word "for" (by decide)),
    run_unseenWord (wordless.word "try" (by decide)),
    run_unseenWord (wordless.word "with" (by decide)),
    run_unseenWord (wordless.word "def" (by decide)),
    run_unseenWord (wordless.word "class" (by decide)),
    run_unseenWord (wordless.word "async" (by decide)), run_unseenMark noDecorator]
  by_cases distinguishes : leaves.head?.any (·.isWord "match") = true
  · rw [run_seenWord distinguishes, run_orElse, noMatch distinguishes, Option.none_or]
  · rw [Bool.not_eq_true] at distinguishes
    rw [run_unseenWord distinguishes]

/-! ## Lines that start with an operand -/

/-- The colon behind a name. -/
def colon : Leaf := .ofMark [] ":"

theorem stops_ending : Stops (Leaf.ending :: rest) where
  mark := rfl
  string := rfl
  word := by intro word; cases word

theorem stops_colon : Stops (colon :: rest) where
  mark := rfl
  string := rfl
  word := by intro word; cases word

theorem refused_colon : Refused (colon :: rest) := rfl

theorem run_namedParts_none
    (refused : Refused leaves)
    (limit depth : Nat) :
    (inside limit depth).namedParts.run leaves = none := by
  have noName : leaves.head?.any Leaf.isName = false := by
    refine any_head_of_imp (fun l name => ?_) refused
    exact Leaf.startsExpression_of_isOperand (by simp [Leaf.isOperand, name])
  have missing : ((inside limit depth).read .expression).run leaves = none :=
    run_readRule_none refused rfl limit depth
  rw [namedParts]
  simp only [run_bind, run_sees, run_seesBehind, noName, Option.bind_some, Bool.false_and,
    Bool.false_eq_true, ↓reduceIte]
  rw [missing]
  rfl

theorem run_named_none
    (refused : Refused leaves)
    (limit depth : Nat) :
    (inside limit depth).named.run leaves = none :=
  run_bind_none (run_namedParts_none refused limit depth)

theorem run_matchBlock_none
    {limit depth : Nat}
    (distinguishes : l.isWord "match" = true) :
    (inside limit depth).matchBlock.run (l :: colon :: rest) = none := by
  have unstarred : (colon :: rest).head?.any (·.isMark "*") = false := rfl
  have noItem : (inside limit depth).namedItem.run (colon :: rest) = none :=
    (run_unseenMark unstarred).trans (run_named_none refused_colon limit depth)
  rw [matchBlock, run_bind_some (run_word distinguishes)]
  exact run_bind_none (run_bind_none (run_bind_none noItem))

theorem wordless_of_isOperand
    {words : List String}
    (operand : l.isOperand = true)
    (reserved : words.all (fun s =>
      isKeyword (.ofString s) && !Leaf.constants.contains (.ofString s)) = true) :
    Wordless words (l :: rest) := by
  change words.any l.isWord = false
  rw [List.any_eq_false]
  intro s member word
  rw [Leaf.isWord_of_isOperand operand (List.all_eq_true.mp reserved s member)] at word
  cases word

variable {limit depth : Nat}

theorem only_starExpressions_operand
    (operand : l.isOperand = true)
    (stops : Stops rest)
    (single : rest.head?.any (·.isMark ",") = false) :
    Only (inside limit depth).starExpressions (l :: rest) (some (.leaf l, rest)) := by
  have unstarred : (l :: rest).head?.any (·.isMark "*") = false := Leaf.isMark_of_isOperand operand
  exact only_starExpressions (readsAs_operand operand limit depth rest stops) unstarred single

theorem run_statement_operand
    (operand : l.isOperand = true)
    (noMatch : l.isWord "match" = true → (inside limit depth).matchBlock.run (l :: rest) = none) :
    (inside limit depth).statement.run (l :: rest) =
      (inside limit depth).simpleLine.run (l :: rest) := by
  have noDecorator : (l :: rest).head?.any (·.isMark "@") = false :=
    Leaf.isMark_of_isOperand operand
  exact run_statement_line (wordless_of_isOperand operand (by decide)) noDecorator noMatch

/-- The statement of a line that gives a leaf a type. -/
def typedLine (l : Leaf) (type : Tree) : Tree :=
  .node .simpleLine
    [.node .assignment [.leaf l, .node .hint [.leaf colon, type]], .leaf Leaf.ending]

theorem only_smallStatement_typed
    {typeLeaves : List Leaf} {type : Tree}
    (name : l.isName = true)
    (typed : Only ((inside limit depth).read .expression) typeLeaves (some (type, rest)))
    (bare : rest.head?.any (·.isMark "=") = false) :
    Only (inside limit depth).smallStatement (l :: colon :: typeLeaves)
      (some (.node .assignment [.leaf l, .node .hint [.leaf colon, type]], rest)) := by
  have operand : l.isOperand = true := by simp [Leaf.isOperand, name]
  have annotatable : (Tree.leaf l).isAnnotatable = true := name
  have assigned :=
    only_annotated (only_starExpressions_operand operand stops_colon rfl) rfl typed bare
  rw [if_pos annotatable] at assigned
  exact .congr (run_smallStatement_expression (wordless_of_isOperand operand (by decide))) assigned

theorem only_typedLine
    {typeLeaves : List Leaf} {type : Tree}
    (name : l.isName = true)
    (reads : ReadsAs typeLeaves type) :
    Only (readRule limit depth .statement) (l :: colon :: (typeLeaves ++ Leaf.ending :: rest))
      (some (typedLine l type, rest)) := by
  cases depth with
  | zero => exact Or.inl rfl
  | succ depth =>
      have operand : l.isOperand = true := by simp [Leaf.isOperand, name]
      have typed : Only ((inside limit depth).read .expression) (typeLeaves ++ Leaf.ending :: rest)
          (some (type, Leaf.ending :: rest)) :=
        reads limit depth _ stops_ending
      have small := only_smallStatement_typed name typed rfl
      exact .congr (run_statement_operand operand run_matchBlock_none) (only_simpleLine small rfl)

theorem run_statement_unnamed
    (operand : l.isOperand = true)
    (noName : l.isName = false) :
    (readRule limit depth .statement).run (l :: colon :: rest) = none := by
  cases depth with
  | zero => rfl
  | succ depth =>
      have unfit : (Tree.leaf l).isAnnotatable = false := noName
      have first : Only (inside limit depth).starExpressions (l :: colon :: rest)
          (some (.leaf l, colon :: rest)) :=
        only_starExpressions_operand operand stops_colon rfl
      have missing : (inside limit depth).expressionStatement.run (l :: colon :: rest) = none := by
        apply Only.run_eq_none
        refine Only.bind first (.congr (run_seenMark rfl) (.of_run ?_))
        rw [unfit]
        rfl
      have small :=
        (run_smallStatement_expression (wordless_of_isOperand operand (by decide))).trans missing
      exact (run_statement_operand operand run_matchBlock_none).trans (run_simpleLine_eq_none small)

/-- Leaves that go on with no expression, and do not end the line either. -/
structure Juxtaposed (leaves : List Leaf) : Prop extends Stops leaves where
  further : leaves.head?.any (fun l => l.kind = .mark || l.kind = .lineEnd) = false

theorem Juxtaposed.unseen
    {marks : List String}
    (juxtaposed : Juxtaposed leaves) :
    Unseen marks leaves :=
  unseen_of_kind (any_head_of_imp (fun l seen => by simp_all) juxtaposed.further)

theorem Juxtaposed.run_simpleLine_none
    (juxtaposed : Juxtaposed rest)
    (small : Only g.smallStatement leaves (some (t, rest))) :
    g.simpleLine.run leaves = none := by
  refine Grammar.run_simpleLine_none small (any_head_of_imp (fun l seen => ?_) juxtaposed.further)
  rcases Bool.or_eq_true_iff.mp seen with ends | mark
  · simpa using Or.inr (by simpa using ends)
  · simp [Leaf.eq_of_isMark mark]

theorem run_simpleLine_juxtaposed
    (operand : l.isOperand = true)
    (juxtaposed : Juxtaposed rest) :
    (inside limit depth).simpleLine.run (l :: rest) = none := by
  have first := @only_starExpressions_operand l rest limit depth operand juxtaposed.toStops
    ((@Juxtaposed.unseen rest [","] juxtaposed).mark "," (by decide))
  have small := Only.congr
    (run_smallStatement_expression (wordless_of_isOperand operand (by decide)))
    (only_expressionStatement first juxtaposed.unseen)
  exact juxtaposed.run_simpleLine_none small

theorem run_statement_juxtaposed
    (number : l.kind = .number)
    (juxtaposed : Juxtaposed rest) :
    (readRule limit depth .statement).run (l :: rest) = none := by
  cases depth with
  | zero => rfl
  | succ depth =>
      have operand : l.isOperand = true := by simp [Leaf.isOperand, number]
      have noMatch : l.isWord "match" = false := Leaf.isWord_of_kind (by simp [number])
      refine (run_statement_operand operand fun distinguishes => ?_).trans
        (run_simpleLine_juxtaposed operand juxtaposed)
      rw [noMatch] at distinguishes
      cases distinguishes

theorem run_typedLine_juxtaposed
    {value : Leaf}
    (name : l.isName = true)
    (operand' : value.isOperand = true)
    (juxtaposed : Juxtaposed rest) :
    (readRule limit depth .statement).run (l :: colon :: value :: rest) = none := by
  cases depth with
  | zero => rfl
  | succ depth =>
      have operand : l.isOperand = true := by simp [Leaf.isOperand, name]
      have typed : Only ((inside limit depth).read .expression) (value :: rest)
          (some (.leaf value, rest)) :=
        readsAs_operand operand' limit depth rest juxtaposed.toStops
      have small := only_smallStatement_typed name typed
        ((@Juxtaposed.unseen rest ["="] juxtaposed).mark "=" (by decide))
      exact (run_statement_operand operand run_matchBlock_none).trans
        (juxtaposed.run_simpleLine_none small)

/-! ## Lines that start with a reserved word -/

/-- A line that starts with no expression and with no word of a statement. -/
theorem run_statement_refused
    (refused : Refused leaves)
    (wordless : Wordless (blockWords ++ statementWords) leaves)
    (noMark : leaves.head?.any (fun l => l.isMark "@" || l.isMark "*") = false) :
    (readRule limit depth .statement).run leaves = none := by
  have ofBlocks : Wordless blockWords leaves :=
    any_head_of_imp (fun l seen => by rw [List.any_append, seen, Bool.true_or]) wordless
  have ofLines : Wordless statementWords leaves :=
    any_head_of_imp (fun l seen => by rw [List.any_append, seen, Bool.or_true]) wordless
  have noDecorator : leaves.head?.any (·.isMark "@") = false :=
    any_head_of_imp (fun l seen => by simp [seen]) noMark
  have unstarred : leaves.head?.any (·.isMark "*") = false :=
    any_head_of_imp (fun l seen => by simp [seen]) noMark
  have noMatch : leaves.head?.any (·.isWord "match") = false := by
    refine any_head_of_imp (fun l seen => ?_) refused
    obtain ⟨kind, text⟩ := Leaf.eq_of_isWord seen
    have name : l.isName = true := by
      rw [Leaf.isName, kind, text]
      decide
    exact Leaf.startsExpression_of_isOperand (by simp [Leaf.isOperand, name])
  cases depth with
  | zero => rfl
  | succ depth =>
      have missing : ((inside limit depth).read .expression).run leaves = none :=
        run_readRule_none refused rfl limit depth
      have small := (run_smallStatement_expression ofLines).trans
        (run_expressionStatement_none missing unstarred)
      refine (run_statement_line ofBlocks noDecorator fun distinguishes => ?_).trans
        (run_simpleLine_eq_none small)
      rw [noMatch] at distinguishes
      cases distinguishes

variable {lead : Text}

theorem run_not_none
    (limit depth : Nat) :
    (readRule limit depth .expression).run (.ofWord lead (.ofString "not") :: colon :: rest) =
      none := by
  have inversionNone (depth : Nat) :
      (readRule limit depth .inversion).run (.ofWord lead (.ofString "not") :: colon :: rest) =
        none := by
    cases depth with
    | zero => rfl
    | succ depth =>
        have further : ((inside limit depth).read .inversion).run (colon :: rest) = none :=
          run_readRule_none refused_colon rfl limit depth
        exact (run_seenWord rfl).trans ((run_bind_some (run_word rfl)).trans (run_bind_none further))
  cases depth with
  | zero => rfl
  | succ depth =>
      exact (run_unseenWord rfl).trans
        (run_bind_none (run_chain_none (run_chain_none (inversionNone depth))))

theorem run_await_none
    (limit depth : Nat) :
    (readRule limit depth .expression).run (.ofWord lead (.ofString "await") :: colon :: rest) =
      none := by
  refine run_readRule_none_of_factor rfl (fun g => ?_) rfl depth
  have noAtom : g.atom.run (colon :: rest) = none := run_atom_none refused_colon
  have found : (optionalWord "await").run (.ofWord lead (.ofString "await") :: colon :: rest) =
      some ([.leaf (.ofWord lead (.ofString "await"))], colon :: rest) := rfl
  have unsigned : (oneOf ["+", "-", "~"]).run (.ofWord lead (.ofString "await") :: colon :: rest) =
      some ([], .ofWord lead (.ofString "await") :: colon :: rest) := rfl
  exact (run_bind_some unsigned).trans ((run_bind_some found).trans (run_bind_none noAtom))

/-- The reserved words that start no statement and no expression. -/
def innerWords : List Text :=
  ["and", "as", "elif", "else", "except", "finally", "in", "is", "or"].map Text.ofString

/-- The reserved words that are statements by themselves. -/
def standaloneWords : List Text :=
  ["pass", "break", "continue", "return", "raise", "yield"].map Text.ofString

/-- The reserved words behind which a name or another word must stand. -/
def namingWords : List Text :=
  ["async", "class", "def", "from", "global", "import", "nonlocal"].map Text.ofString

/-- The reserved words behind which an expression must stand. -/
def operatingWords : List Text :=
  ["assert", "await", "del", "for", "if", "not", "while", "with"].map Text.ofString

theorem keyword_cases
    {word : Text}
    (keyword : isKeyword word = true) :
    word = .ofString "lambda" ∨ word = .ofString "try" ∨ word ∈ Leaf.constants ∨
      word ∈ innerWords ∨ word ∈ standaloneWords ∨ word ∈ namingWords ∨ word ∈ operatingWords := by
  have groups : ∀ word ∈ keywords, word = .ofString "lambda" ∨ word = .ofString "try" ∨
      word ∈ Leaf.constants ∨ word ∈ innerWords ∨ word ∈ standaloneWords ∨ word ∈ namingWords ∨
        word ∈ operatingWords := by
    decide
  exact groups word (List.contains_iff_mem.mp keyword)

theorem run_statement_constant
    {word : Text}
    (member : word ∈ Leaf.constants) :
    (readRule limit depth .statement).run (.ofWord lead word :: colon :: rest) = none := by
  simp only [Leaf.constants, List.map_cons, List.map_nil, List.mem_cons, List.not_mem_nil,
    or_false] at member
  rcases member with rfl | rfl | rfl <;> exact run_statement_unnamed rfl rfl

theorem run_statement_inner
    {word : Text}
    (member : word ∈ innerWords) :
    (readRule limit depth .statement).run (.ofWord lead word :: colon :: rest) = none := by
  simp only [innerWords, List.map_cons, List.map_nil, List.mem_cons, List.not_mem_nil,
    or_false] at member
  rcases member with rfl | rfl | rfl | rfl | rfl | rfl | rfl | rfl | rfl <;>
    exact run_statement_refused rfl rfl rfl

theorem run_statement_standalone
    {word : Text}
    (member : word ∈ standaloneWords) :
    (readRule limit (depth + 1) .statement).run (.ofWord lead word :: colon :: rest) = none := by
  have single (line : (inside limit depth).statement.run (.ofWord lead word :: colon :: rest) =
        (inside limit depth).simpleLine.run (.ofWord lead word :: colon :: rest))
      (small : (inside limit depth).smallStatement.run (.ofWord lead word :: colon :: rest) =
        some (.leaf (.ofWord lead word), colon :: rest)) :
      (inside limit depth).statement.run (.ofWord lead word :: colon :: rest) = none :=
    line.trans (run_simpleLine_none (.of_run small) rfl)
  change (inside limit depth).statement.run _ = none
  simp only [standaloneWords, List.map_cons, List.map_nil, List.mem_cons, List.not_mem_nil,
    or_false] at member
  rcases member with rfl | rfl | rfl | rfl | rfl | rfl <;> exact single rfl rfl

theorem run_statement_naming
    {word : Text}
    (member : word ∈ namingWords) :
    (readRule limit (depth + 1) .statement).run (.ofWord lead word :: colon :: rest) = none := by
  have single (line : (inside limit depth).statement.run (.ofWord lead word :: colon :: rest) =
        (inside limit depth).simpleLine.run (.ofWord lead word :: colon :: rest))
      (small : (inside limit depth).smallStatement.run (.ofWord lead word :: colon :: rest) =
        none) :
      (inside limit depth).statement.run (.ofWord lead word :: colon :: rest) = none :=
    line.trans (run_simpleLine_eq_none small)
  change (inside limit depth).statement.run _ = none
  simp only [namingWords, List.map_cons, List.map_nil, List.mem_cons, List.not_mem_nil,
    or_false] at member
  rcases member with rfl | rfl | rfl | rfl | rfl | rfl | rfl
  · rfl
  · rfl
  · rfl
  · refine single rfl ?_
    cases limit with
    | zero => rfl
    | succ limit => rfl
  · exact single rfl rfl
  · exact single rfl rfl
  · exact single rfl rfl

theorem run_statement_operating
    {word : Text}
    (member : word ∈ operatingWords) :
    (readRule limit (depth + 1) .statement).run (.ofWord lead word :: colon :: rest) = none := by
  have noExpression : ((inside limit depth).read .expression).run (colon :: rest) = none :=
    run_readRule_none refused_colon rfl limit depth
  have noArithmetic : (inside limit depth).arithmetic.run (colon :: rest) = none :=
    run_operations_none (run_readRule_none refused_colon rfl limit depth) operators
  have noNamed : (inside limit depth).named.run (colon :: rest) = none :=
    run_named_none refused_colon limit depth
  simp only [operatingWords, List.map_cons, List.map_nil, List.mem_cons, List.not_mem_nil,
    or_false] at member
  rcases member with rfl | rfl | rfl | rfl | rfl | rfl | rfl | rfl
  · have small : (inside limit depth).assertion.run
        (.ofWord lead (.ofString "assert") :: colon :: rest) = none := by
      rw [assertion, run_bind_some (run_word rfl)]
      exact run_bind_none noExpression
    exact run_simpleLine_eq_none small
  · have small : (inside limit depth).expressionStatement.run
        (.ofWord lead (.ofString "await") :: colon :: rest) = none :=
      run_expressionStatement_none (run_await_none limit depth) rfl
    exact run_simpleLine_eq_none small
  · have small : (inside limit depth).deletion.run
        (.ofWord lead (.ofString "del") :: colon :: rest) = none := by
      rw [deletion, run_bind_some (run_word rfl)]
      exact run_bind_none (run_bind_none (run_bind_none noArithmetic))
    exact run_simpleLine_eq_none small
  · change (inside limit depth).forLoop.run (.ofWord lead (.ofString "for") :: colon :: rest) = none
    rw [forLoop, run_bind_some (run_word rfl)]
    refine run_bind_none (run_bind_none (run_bind_none ?_))
    exact (run_unseenMark rfl).trans (run_bind_none noArithmetic)
  · change (inside limit depth).conditional.run (.ofWord lead (.ofString "if") :: colon :: rest) = none
    rw [conditional]
    apply run_bind_none
    rw [run_bind_some (run_word rfl)]
    exact run_bind_none noNamed
  · have small : (inside limit depth).expressionStatement.run
        (.ofWord lead (.ofString "not") :: colon :: rest) = none :=
      run_expressionStatement_none (run_not_none limit depth) rfl
    exact run_simpleLine_eq_none small
  · change (inside limit depth).whileLoop.run (.ofWord lead (.ofString "while") :: colon :: rest) = none
    rw [whileLoop, run_bind_some (run_word rfl)]
    exact run_bind_none noNamed
  · change (inside limit depth).withBlock.run (.ofWord lead (.ofString "with") :: colon :: rest) = none
    have noContext : (inside limit depth).context.run (colon :: rest) = none :=
      run_bind_none noExpression
    have noGroup : (inside limit depth).contextGroup.run (colon :: rest) = none := rfl
    rw [withBlock, run_bind_some (run_word rfl)]
    apply run_bind_none
    rw [run_orElse, noGroup, Option.none_or]
    exact run_bind_none noContext

/-- A line that starts with a reserved word and a colon is no statement, an anonymous function and a
block with handlers apart. -/
theorem run_statement_keyword
    {word : Text}
    (keyword : isKeyword word = true)
    (noLambda : word ≠ .ofString "lambda")
    (noTry : word ≠ .ofString "try") :
    (readRule limit depth .statement).run (.ofWord lead word :: colon :: rest) = none := by
  cases depth with
  | zero => rfl
  | succ depth =>
      rcases keyword_cases keyword with same | same | constant | inner | alone | naming | operating
      · exact absurd same noLambda
      · exact absurd same noTry
      · exact run_statement_constant constant
      · exact run_statement_inner inner
      · exact run_statement_standalone alone
      · exact run_statement_naming naming
      · exact run_statement_operating operating

/-! ### Blocks with handlers -/

/-- An operand or a string. -/
def startsType (l : Leaf) : Bool := l.isOperand || l.kind = .string

theorem only_simpleLine_annotated
    {type : Tree}
    (starts : startsType l = true)
    (reads : ReadsAs (l :: leaves) type) :
    Only (inside limit depth).simpleLine (l :: leaves ++ Leaf.ending :: rest)
      (some (.node .simpleLine [type, .leaf Leaf.ending], rest)) := by
  have wordless : Wordless statementWords (l :: leaves ++ Leaf.ending :: rest) := by
    rcases Bool.or_eq_true_iff.mp starts with operand | string
    · exact wordless_of_isOperand operand (by decide)
    · have kind : l.kind = .string := by simpa using string
      simp [Wordless, Leaf.isWord_of_kind, kind]
  have unstarred : (l :: leaves ++ Leaf.ending :: rest).head?.any (·.isMark "*") = false := by
    rcases Bool.or_eq_true_iff.mp starts with operand | string
    · exact Leaf.isMark_of_isOperand operand
    · have kind : l.kind = .string := by simpa using string
      exact Leaf.isMark_of_kind (by simp [kind])
  have first : Only (inside limit depth).starExpressions (l :: leaves ++ Leaf.ending :: rest)
      (some (type, Leaf.ending :: rest)) :=
    only_starExpressions (reads limit depth _ stops_ending) unstarred rfl
  have small := Only.congr (run_smallStatement_expression wordless)
    (only_expressionStatement first rfl)
  exact only_simpleLine small rfl

theorem run_statement_try_juxtaposed
    (operand : l.isOperand = true)
    (juxtaposed : Juxtaposed rest) :
    (readRule limit depth .statement).run (.ofWord lead (.ofString "try") :: colon :: l :: rest) =
      none := by
  cases depth with
  | zero => rfl
  | succ depth =>
      have inLine : (l :: rest).head?.any (fun l => l.kind = .lineEnd) = false := by
        rcases Leaf.kind_of_isOperand operand with number | word
        · simp [number]
        · simp [word]
      have noLine : (inside limit depth).simpleLine.run (l :: rest) = none :=
        run_simpleLine_juxtaposed operand juxtaposed
      change (inside limit depth).tryBlock.run
        (.ofWord lead (.ofString "try") :: colon :: l :: rest) = none
      have found : (Reader.mark ":").run (colon :: l :: rest) = some (.leaf colon, l :: rest) := rfl
      rw [tryBlock, run_bind_some (run_word rfl)]
      apply run_bind_none
      rw [suite, run_bind_some found, run_unseen inLine]
      exact run_bind_none noLine

theorem run_statement_try
    {type : Tree}
    (starts : startsType l = true)
    (reads : ReadsAs (l :: leaves) type)
    (unhandled : rest.head?.any (fun l => l.isWord "except" || l.isWord "finally") = false) :
    (readRule limit depth .statement).run
      (.ofWord lead (.ofString "try") :: colon :: (l :: leaves ++ Leaf.ending :: rest)) = none := by
  cases depth with
  | zero => rfl
  | succ depth =>
      have noExcept : rest.head?.any (·.isWord "except") = false :=
        any_head_of_imp (fun l seen => by simp [seen]) unhandled
      have noFinally : rest.head?.any (·.isWord "finally") = false :=
        any_head_of_imp (fun l seen => by simp [seen]) unhandled
      have inLine : (l :: leaves ++ Leaf.ending :: rest).head?.any (fun l => l.kind = .lineEnd) =
          false := by
        rcases Bool.or_eq_true_iff.mp starts with operand | string
        · rcases Leaf.kind_of_isOperand operand with number | word
          · simp [number]
          · simp [word]
        · have kind : l.kind = .string := by simpa using string
          simp [kind]
      have found : (Reader.mark ":").run (colon :: (l :: leaves ++ Leaf.ending :: rest)) =
          some (.leaf colon, l :: leaves ++ Leaf.ending :: rest) := rfl
      -- The block ends with the line, and neither a handler nor a last part follows it.
      have body : Only (inside limit depth).suite
          (colon :: (l :: leaves ++ Leaf.ending :: rest))
          (some ([.leaf colon, .node .simpleLine [type, .leaf Leaf.ending]], rest)) := by
        refine Only.bind (.of_run found) (.congr (run_unseen inLine) ?_)
        exact Only.bind (only_simpleLine_annotated starts reads) (.of_run rfl)
      have handlers (starred : Bool) :
          Only (many ((inside limit depth).exceptClause starred) limit) rest (some ([], rest)) :=
        only_many_stop (.congr (run_unseenWord noExcept) (.of_run rfl)) limit
      have final : Only ((inside limit depth).wordSuite "finally") rest (some ([], rest)) :=
        .congr (run_unseenWord noFinally) (.of_run rfl)
      change (inside limit depth).tryBlock.run
        (.ofWord lead (.ofString "try") :: colon :: (l :: leaves ++ Leaf.ending :: rest)) = none
      apply Only.run_eq_none
      refine Only.bind (.of_run (run_word rfl)) (Only.bind body ?_)
      refine Only.bind (.of_run run_seesBehind) (Only.bind (handlers _) ?_)
      exact Only.bind (.of_run rfl) (Only.bind final (.of_run rfl))

end RecordGen.Source.Grammar
