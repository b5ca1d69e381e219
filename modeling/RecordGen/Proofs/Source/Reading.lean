import RecordGen.Source.Grammar.Statement
import RecordGen.Proofs.Source.Running

/-!
# Reading operands

How the readers of expressions run on single operands, on attributes, alternatives and strings. Where
no expression can start none is read, and an operand behind which nothing goes on with an expression
is read as itself by every reader of expressions.
-/

namespace RecordGen.Source

open Grammar Reader

/-! ## Sorts of leaves -/

/-- What no leaf in front is, no leaf of a narrower sort in front is. -/
theorem any_head_of_imp
    {leaves : List Leaf} {wide narrow : Leaf → Bool}
    (imp : ∀ l, narrow l = true → wide l = true)
    (unseen : leaves.head?.any wide = false) :
    leaves.head?.any narrow = false := by
  cases leaves with
  | nil => rfl
  | cons l rest =>
      have other : wide l = false := unseen
      cases seen : narrow l with
      | false => exact seen
      | true =>
          rw [imp l seen] at other
          cases other

namespace Leaf

variable {l : Leaf} {s : String}

/-- The leaf is an operand by itself: a number, a name or a word for a value. -/
def isOperand (l : Leaf) : Bool := l.kind = .number || l.isName || l.isConstant

/-- The marks that go on with an expression behind an operand. -/
def joiningMarks : List String :=
  ["|", "^", "&", "<<", ">>", "+", "-", "*", "/", "//", "%", "@", "==", "!=", "<", "<=", ">", ">=",
    ".", "(", "[", "**"]

theorem isMark_of_kind
    (different : l.kind ≠ .mark) :
    l.isMark s = false := by
  simp [isMark, different]

theorem isWord_of_kind
    (different : l.kind ≠ .word) :
    l.isWord s = false := by
  simp [isWord, different]

theorem eq_of_isWord
    (word : l.isWord s = true) :
    l.kind = .word ∧ l.text = .ofString s := by
  simpa [isWord] using word

theorem eq_of_isMark
    (mark : l.isMark s = true) :
    l.kind = .mark ∧ l.text = .ofString s := by
  simpa [isMark] using mark

theorem kind_of_isOperand
    (operand : l.isOperand = true) :
    l.kind = .number ∨ l.kind = .word := by
  simp only [isOperand, isName, isConstant, isWord, Bool.or_eq_true, Bool.and_eq_true,
    decide_eq_true_eq] at operand
  tauto

theorem isMark_of_isOperand
    (operand : l.isOperand = true) :
    l.isMark s = false := by
  apply isMark_of_kind
  rcases kind_of_isOperand operand with number | word
  · simp [number]
  · simp [word]

/-- The words for values. -/
def constants : List Text := ["True", "False", "None"].map Text.ofString

theorem isWord_of_isOperand
    (operand : l.isOperand = true)
    (reserved : (isKeyword (.ofString s) && !constants.contains (.ofString s)) = true) :
    l.isWord s = false := by
  rw [Bool.eq_false_iff]
  intro word
  obtain ⟨kind, text⟩ := eq_of_isWord word
  simp only [Bool.and_eq_true, Bool.not_eq_true'] at reserved
  obtain ⟨keyword, ordinary⟩ := reserved
  have noConstant : l.isConstant = constants.contains l.text := by
    simp [isConstant, isWord, constants, kind, Bool.or_assoc]
  rw [isOperand, isName, noConstant, kind, text, keyword, ordinary] at operand
  exact absurd operand (by decide)

theorem startsExpression_of_isWord
    (word : l.isWord s = true)
    (starts : expressionWords.contains (.ofString s) = true) :
    l.startsExpression = true := by
  obtain ⟨kind, text⟩ := eq_of_isWord word
  simp only [startsExpression, kind, text, starts, Bool.or_true]

theorem startsExpression_of_isMark
    (mark : l.isMark s = true)
    (starts : expressionMarks.contains (.ofString s) = true) :
    l.startsExpression = true := by
  obtain ⟨kind, text⟩ := eq_of_isMark mark
  simp only [startsExpression, kind, text, starts]

theorem startsExpression_of_isOperand
    (operand : l.isOperand = true) :
    l.startsExpression = true := by
  simp only [isOperand, Bool.or_eq_true, decide_eq_true_eq] at operand
  rcases operand with (number | name) | constant
  · simp only [startsExpression, number]
  · have kind : l.kind = .word := by
      simp only [isName, Bool.and_eq_true, decide_eq_true_eq] at name
      exact name.1
    simp only [startsExpression, kind, name, Bool.true_or]
  · simp only [isConstant, Bool.or_eq_true] at constant
    rcases constant with (truth | falsity) | nothing
    · exact startsExpression_of_isWord truth (by decide)
    · exact startsExpression_of_isWord falsity (by decide)
    · exact startsExpression_of_isWord nothing (by decide)

end Leaf

/-- None of some marks is in front. -/
def Unseen (marks : List String) (leaves : List Leaf) : Prop :=
  leaves.head?.any (fun l => marks.any l.isMark) = false

theorem Unseen.mono
    {marks others : List String} {leaves : List Leaf}
    (unseen : Unseen marks leaves)
    (among : others.all marks.contains = true) :
    Unseen others leaves := by
  refine any_head_of_imp (fun l seen => ?_) unseen
  obtain ⟨mark, member, own⟩ := List.any_eq_true.mp seen
  have inside := List.contains_iff_mem.mp (List.all_eq_true.mp among mark member)
  exact List.any_eq_true.mpr ⟨mark, inside, own⟩

theorem Unseen.mark
    {marks : List String} {leaves : List Leaf}
    (unseen : Unseen marks leaves)
    (s : String)
    (among : marks.contains s = true) :
    leaves.head?.any (·.isMark s) = false := by
  have alone : Unseen [s] leaves := unseen.mono (by simpa using among)
  simpa [Unseen] using alone

/-! ## Where no expression starts -/

/-- No expression starts with the leaves. -/
def Refused (leaves : List Leaf) : Prop := leaves.head?.any Leaf.startsExpression = false

namespace Refused

variable {g : Grammar} {leaves : List Leaf} {s : String}

theorem word
    (refused : Refused leaves)
    (starts : expressionWords.contains (.ofString s) = true) :
    leaves.head?.any (·.isWord s) = false :=
  any_head_of_imp (fun _ word => Leaf.startsExpression_of_isWord word starts) refused

theorem mark
    (refused : Refused leaves)
    (starts : expressionMarks.contains (.ofString s) = true) :
    leaves.head?.any (·.isMark s) = false :=
  any_head_of_imp (fun _ mark => Leaf.startsExpression_of_isMark mark starts) refused

theorem string (refused : Refused leaves) :
    leaves.head?.any (fun l => l.kind = .string) = false := by
  refine any_head_of_imp (fun l string => ?_) refused
  have kind : l.kind = .string := by simpa using string
  simp only [Leaf.startsExpression, kind]

theorem operand (refused : Refused leaves) : leaves.head?.any Leaf.isOperand = false :=
  any_head_of_imp (fun _ => Leaf.startsExpression_of_isOperand) refused

end Refused

namespace Grammar

variable {g : Grammar} {leaves rest : List Leaf} {t : Tree}

theorem run_chain_none
    {kind : NodeKind} {joint : Reader (List Tree)} {operand : Reader Tree}
    (missing : operand.run leaves = none) :
    (g.chain kind joint operand).run leaves = none :=
  run_bind_none missing

theorem run_operations_none
    (missing : (g.read .factor).run leaves = none)
    (ways : List (NodeKind × List String)) :
    (g.operations ways).run leaves = none := by
  induction ways with
  | nil => exact missing
  | cons way tighter inductionHypothesis =>
      rw [operations]
      exact run_chain_none inductionHypothesis

theorem run_oneOf_stop
    {marks : List String}
    (unseen : Unseen marks leaves) :
    (oneOf marks).run leaves = some ([], leaves) := by
  rw [oneOf, run_unseen unseen]
  rfl

theorem run_optionalWord_stop
    {s : String}
    (unseen : leaves.head?.any (·.isWord s) = false) :
    (optionalWord s).run leaves = some ([], leaves) := by
  rw [optionalWord, run_unseenWord unseen]
  rfl

theorem run_optionalMark_stop
    {s : String}
    (unseen : leaves.head?.any (·.isMark s) = false) :
    (optionalMark s).run leaves = some ([], leaves) := by
  rw [optionalMark, run_unseenMark unseen]
  rfl

theorem run_atom_none (refused : Refused leaves) : g.atom.run leaves = none := by
  rw [atom, run_unseenMark (refused.mark (by decide)), run_unseenMark (refused.mark (by decide)),
    run_unseenMark (refused.mark (by decide)), run_unseenMark (refused.mark (by decide)),
    run_unseen refused.string]
  exact run_take_none refused.operand

theorem run_factor_none (refused : Refused leaves) : g.factor.run leaves = none := by
  have unsigned : Unseen ["+", "-", "~"] leaves := by
    refine any_head_of_imp (fun l seen => ?_) refused
    simp only [List.any_cons, List.any_nil, Bool.or_false, Bool.or_eq_true] at seen
    rcases seen with plus | minus | tilde
    · exact Leaf.startsExpression_of_isMark plus (by decide)
    · exact Leaf.startsExpression_of_isMark minus (by decide)
    · exact Leaf.startsExpression_of_isMark tilde (by decide)
  rw [factor, run_bind_some (run_oneOf_stop unsigned)]
  simp only [List.isEmpty_nil, ↓reduceIte]
  rw [power, run_bind_some (run_optionalWord_stop (refused.word (by decide)))]
  exact run_bind_none (run_atom_none refused)

/-- Rules for expressions of some strength. -/
def isExpressionRule (rule : Rule) : Bool :=
  rule = .expression || rule = .inversion || rule = .factor

/-- Leaves that do not start with a word of a weaker operator are no expression if they are no operand
of operators. -/
theorem run_readRule_none_of_factor
    {rule : Rule} {limit : Nat}
    (plain : leaves.head?.any (fun l => l.isWord "not" || l.isWord "lambda") = false)
    (missing : ∀ g : Grammar, g.factor.run leaves = none)
    (ofExpressions : isExpressionRule rule = true)
    (depth : Nat) :
    (readRule limit depth rule).run leaves = none := by
  have noNot : leaves.head?.any (·.isWord "not") = false :=
    any_head_of_imp (fun l seen => by simp [seen]) plain
  have noLambda : leaves.head?.any (·.isWord "lambda") = false :=
    any_head_of_imp (fun l seen => by simp [seen]) plain
  -- Each rule reads the next stronger one, perhaps at a smaller depth; only a factor reads leaves.
  induction depth generalizing rule with
  | zero => rfl
  | succ depth inductionHypothesis =>
      have inversionNone := @inductionHypothesis .inversion rfl
      have factorNone := @inductionHypothesis .factor rfl
      cases rule with
      | expression =>
          change (expression ⟨limit, readRule limit depth⟩).run leaves = none
          rw [expression, run_unseenWord noLambda]
          exact run_bind_none (run_chain_none (run_chain_none inversionNone))
      | inversion =>
          change (inversion ⟨limit, readRule limit depth⟩).run leaves = none
          rw [inversion, run_unseenWord noNot]
          exact run_chain_none (run_operations_none factorNone operators)
      | factor => exact missing ⟨limit, readRule limit depth⟩
      | pattern => cases ofExpressions
      | statement => cases ofExpressions

/-- Where no expression starts, none is read, however deep. -/
theorem run_readRule_none
    {rule : Rule}
    (refused : Refused leaves)
    (ofExpressions : isExpressionRule rule = true)
    (limit depth : Nat) :
    (readRule limit depth rule).run leaves = none := by
  refine run_readRule_none_of_factor (any_head_of_imp (fun l seen => ?_) refused)
    (fun g => run_factor_none refused) ofExpressions depth
  rcases Bool.or_eq_true_iff.mp seen with negation | function
  · exact Leaf.startsExpression_of_isWord negation (by decide)
  · exact Leaf.startsExpression_of_isWord function (by decide)

/-! ## Single operands -/

/-- Behind an operand the leaves do not go on with an expression: they start with no mark that joins
operands and no string, and if they start with a word, neither a word nor an expression stands behind
it. -/
structure Stops (leaves : List Leaf) : Prop where
  mark : Unseen Leaf.joiningMarks leaves
  string : leaves.head?.any (fun l => l.kind = .string) = false
  word : leaves.head?.any (fun l => l.kind = .word) = true →
    leaves.tail.head?.any (fun l => l.kind = .word || l.startsExpression) = false

/-- A chain does not go on with a joint and an operand. -/
def Closes (joint : Reader (List Tree)) (operand : Reader Tree) (leaves : List Leaf) : Prop :=
  let step : Reader (List Tree) := do
    let joint ← joint
    if joint.isEmpty then return [] else return joint ++ [← operand]
  Only step leaves (some ([], leaves))

theorem Closes.of_stop
    {joint : Reader (List Tree)} {operand : Reader Tree}
    (stop : joint.run leaves = some ([], leaves)) :
    Closes joint operand leaves := by
  refine .of_run ?_
  rw [run_bind_some stop]
  rfl

theorem Closes.of_none
    {joint : Reader (List Tree)} {operand : Reader Tree} {part : List Tree} {behind : List Leaf}
    (found : joint.run leaves = some (part, behind))
    (nonempty : part.isEmpty = false)
    (missing : operand.run behind = none) :
    Closes joint operand leaves := by
  refine Or.inl ?_
  rw [run_bind_some found]
  simp only [nonempty, Bool.false_eq_true, ↓reduceIte]
  exact run_bind_none missing

theorem only_many_stop
    {step : Reader (List Tree)}
    (stop : Only step leaves (some ([], leaves)))
    (limit : Nat) :
    Only (many step limit) leaves (some ([], leaves)) := by
  cases limit with
  | zero => exact Or.inl rfl
  | succ limit =>
      rcases stop with missing | stop
      · exact Or.inl (run_many_none missing)
      · exact .of_run (run_many_stop stop)

theorem only_chain
    {kind : NodeKind} {joint : Reader (List Tree)} {operand : Reader Tree}
    (first : Only operand leaves (some (t, rest)))
    (closes : Closes joint operand rest) :
    Only (g.chain kind joint operand) leaves (some (t, rest)) :=
  Only.bind first (Only.bind (only_many_stop closes g.limit) (.of_run rfl))

theorem only_operations
    {ways : List (NodeKind × List String)}
    (first : Only (g.read .factor) leaves (some (t, rest)))
    (unseen : ∀ way ∈ ways, Unseen way.2 rest) :
    Only (g.operations ways) leaves (some (t, rest)) := by
  induction ways with
  | nil => exact first
  | cons way tighter inductionHypothesis =>
      obtain ⟨own, others⟩ := List.forall_mem_cons.mp unseen
      rw [Grammar.operations]
      exact only_chain (inductionHypothesis others) (.of_stop (run_oneOf_stop own))

theorem Stops.only_arithmetic
    (stops : Stops rest)
    (first : Only (g.read .factor) leaves (some (t, rest))) :
    Only g.arithmetic leaves (some (t, rest)) := by
  refine only_operations first fun way member => stops.mark.mono ?_
  revert way
  decide

theorem Stops.refused
    {l : Leaf}
    (stops : Stops (l :: rest))
    (word : l.kind = .word) :
    rest.head?.any (fun l => l.kind = .word) = false ∧ Refused rest := by
  have none := stops.word (by simp [word])
  rw [List.tail_cons] at none
  exact ⟨any_head_of_imp (fun l seen => by simp [seen]) none,
    any_head_of_imp (fun l seen => by simp [seen]) none⟩

theorem run_word {l : Leaf} {s : String} (word : l.isWord s = true) :
    (Reader.word s).run (l :: rest) = some (.leaf l, rest) := by
  rw [Reader.word, run_take, if_pos word]

theorem Stops.closes_optionalWord
    {s : String} {operand : Reader Tree}
    (stops : Stops leaves)
    (missing : ∀ behind, Refused behind → operand.run behind = none) :
    Closes (optionalWord s) operand leaves := by
  cases leaves with
  | nil => exact .of_stop rfl
  | cons l behind =>
      cases word : (l :: behind).head?.any (·.isWord s) with
      | false => exact .of_stop (run_optionalWord_stop word)
      | true =>
          have refused := (stops.refused (Leaf.eq_of_isWord word).1).2
          have found : (optionalWord s).run (l :: behind) = some ([.leaf l], behind) := by
            rw [optionalWord, run_seenWord word, run_bind_some (run_word word)]
            rfl
          exact .of_none found rfl (missing behind refused)

theorem Stops.closes_comparator
    {operand : Reader Tree}
    (stops : Stops leaves)
    (missing : ∀ behind, Refused behind → operand.run behind = none) :
    Closes comparator operand leaves := by
  have unsigned : (oneOf ["==", "!=", "<", "<=", ">", ">="]).run leaves = some ([], leaves) :=
    run_oneOf_stop (stops.mark.mono (by decide))
  cases leaves with
  | nil => exact .of_stop unsigned
  | cons l behind =>
      have wordless {first second : String} (word : l.isWord first = true) :
          behind.head?.any (·.isWord second) = false :=
        any_head_of_imp (fun m own => by simp [Leaf.eq_of_isWord own])
          (stops.refused (Leaf.eq_of_isWord word).1).1
      have refused {first : String} (word : l.isWord first = true) : Refused behind :=
        (stops.refused (Leaf.eq_of_isWord word).1).2
      cases isWord : (l :: behind).head?.any (·.isWord "is") with
      | true =>
          have found : comparator.run (l :: behind) = some ([.leaf l], behind) := by
            rw [comparator, run_seenWord isWord, run_bind_some (run_word isWord),
              run_unseenWord (wordless isWord)]
            rfl
          exact .of_none found rfl (missing behind (refused isWord))
      | false =>
          cases notWord : (l :: behind).head?.any (·.isWord "not") with
          | true =>
              have behindNot : ((l :: behind).drop 1).head?.any (·.isWord "in") = false :=
                wordless notWord
              refine .of_stop ?_
              rw [comparator, run_unseenWord isWord, run_seenWord notWord, run_bind,
                run_seesBehind, behindNot]
              rfl
          | false =>
              cases inWord : (l :: behind).head?.any (·.isWord "in") with
              | true =>
                  have found : comparator.run (l :: behind) = some ([.leaf l], behind) := by
                    rw [comparator, run_unseenWord isWord, run_unseenWord notWord,
                      run_seenWord inWord, run_bind_some (run_word inWord)]
                    rfl
                  exact .of_none found rfl (missing behind (refused inWord))
              | false =>
                  refine .of_stop ?_
                  rw [comparator, run_unseenWord isWord, run_unseenWord notWord,
                    run_unseenWord inWord]
                  exact unsigned

/-- The marks of a call, a subscript, an attribute and a power. -/
def tightMarks : List String := [".", "(", "[", "**"]

theorem run_trailer_stop
    (unseen : Unseen tightMarks leaves) :
    g.trailer.run leaves = some ([], leaves) := by
  rw [trailer, run_unseenMark (unseen.mark "." (by decide)),
    run_unseenMark (unseen.mark "(" (by decide)), run_unseenMark (unseen.mark "[" (by decide))]
  rfl

theorem run_atom_operand
    {l : Leaf}
    (operand : l.isOperand = true) :
    g.atom.run (l :: rest) = some (.leaf l, rest) := by
  have noMark (s : String) : (l :: rest).head?.any (·.isMark s) = false :=
    Leaf.isMark_of_isOperand operand
  have noString : (l :: rest).head?.any (fun l => l.kind = .string) = false := by
    rcases Leaf.kind_of_isOperand operand with number | word
    · simp [number]
    · simp [word]
  rw [atom, run_unseenMark (noMark "("), run_unseenMark (noMark "["),
    run_unseenMark (noMark "\x7b"), run_unseenMark (noMark "."), run_unseen noString, run_take]
  exact if_pos operand

theorem only_factor
    {first : Tree} {trailers : List Tree} {behind : List Leaf}
    (plain : leaves.head?.any (fun l => l.kind = .mark || l.isWord "await") = false)
    (atom : Only g.atom leaves (some (first, behind)))
    (trailed : Only (many g.trailer g.limit) behind (some (trailers, rest)))
    (unraised : rest.head?.any (·.isMark "**") = false) :
    Only g.factor leaves (some (.group .power (first :: trailers), rest)) := by
  have unsigned : Unseen ["+", "-", "~"] leaves := by
    refine any_head_of_imp (fun l seen => ?_) plain
    obtain ⟨mark, -, own⟩ := List.any_eq_true.mp seen
    simp [Leaf.eq_of_isMark own]
  have noAwait : leaves.head?.any (·.isWord "await") = false :=
    any_head_of_imp (fun l seen => by simp [seen]) plain
  refine Only.bind (.of_run (run_oneOf_stop unsigned)) ?_
  refine Only.bind (.of_run (run_optionalWord_stop noAwait)) ?_
  exact Only.bind atom (Only.bind trailed (.congr (run_unseenMark unraised) (.of_run rfl)))

theorem only_many_step
    {step : Reader (List Tree)} {part others : List Tree} {behind : List Leaf}
    (first : Only step leaves (some (part, behind)))
    (nonempty : part ≠ [])
    (more : ∀ limit, Only (many step limit) behind (some (others, rest)))
    (limit : Nat) :
    Only (many step limit) leaves (some (part ++ others, rest)) := by
  cases limit with
  | zero => exact Or.inl rfl
  | succ limit =>
      rcases first with missing | found
      · exact Or.inl (run_many_none missing)
      · rcases more limit with missing | last
        · exact Or.inl (by rw [run_many_step found nonempty, missing]; rfl)
        · exact .of_run (by rw [run_many_step found nonempty, last]; rfl)

/-- The grammar inside of a rule at a depth. -/
def inside (limit depth : Nat) : Grammar := ⟨limit, readRule limit depth⟩

variable {limit depth : Nat}

/-- An expression is what its arithmetic part is, if it starts with no word of a weaker operator and
nothing goes on behind it. -/
theorem Stops.only_inversion
    (stops : Stops rest)
    (plain : leaves.head?.any (·.isWord "not") = false)
    (first : ∀ depth, Only (inside limit depth).arithmetic leaves (some (t, rest))) :
    Only (readRule limit depth .inversion) leaves (some (t, rest)) := by
  cases depth with
  | zero => exact Or.inl rfl
  | succ depth =>
      let g := inside limit depth
      have missing (behind : List Leaf) (refused : Refused behind) :
          g.arithmetic.run behind = none :=
        run_operations_none (run_readRule_none refused rfl limit depth) operators
      have chained : Only (g.chain .comparison comparator g.arithmetic) leaves (some (t, rest)) :=
        only_chain (first depth) (stops.closes_comparator missing)
      change Only g.inversion leaves (some (t, rest))
      exact .congr (run_unseenWord plain) chained

theorem Stops.only_expression
    (stops : Stops rest)
    (plain : leaves.head?.any (fun l => l.isWord "not" || l.isWord "lambda") = false)
    (first : ∀ depth, Only (inside limit depth).arithmetic leaves (some (t, rest))) :
    Only (readRule limit depth .expression) leaves (some (t, rest)) := by
  cases depth with
  | zero => exact Or.inl rfl
  | succ depth =>
      let g := inside limit depth
      have noNot : leaves.head?.any (·.isWord "not") = false :=
        any_head_of_imp (fun l seen => by simp [seen]) plain
      have noLambda : leaves.head?.any (·.isWord "lambda") = false :=
        any_head_of_imp (fun l seen => by simp [seen]) plain
      have missing (behind : List Leaf) (refused : Refused behind) :
          (g.read .inversion).run behind = none :=
        run_readRule_none refused rfl limit depth
      have conjoined : Only (g.chain .conjunction (optionalWord "and") (g.read .inversion)) leaves
          (some (t, rest)) :=
        only_chain (stops.only_inversion noNot first) (stops.closes_optionalWord missing)
      have disjoined : Only g.disjunction leaves (some (t, rest)) :=
        only_chain conjoined
          (stops.closes_optionalWord fun behind refused => run_chain_none (missing behind refused))
      change Only g.expression leaves (some (t, rest))
      refine .congr (run_unseenWord noLambda) (Only.bind disjoined ?_)
      -- A condition could follow, but what stops an expression has no test behind its word.
      cases rest with
      | nil => exact .of_run rfl
      | cons l behind =>
          cases choice : l.isWord "if" with
          | false => exact .congr (run_unseenWord choice) (.of_run rfl)
          | true =>
              have refused := (stops.refused (Leaf.eq_of_isWord choice).1).2
              have noTest : g.disjunction.run behind = none :=
                run_chain_none (run_chain_none (missing behind refused))
              refine .congr (run_seenWord choice) (Or.inl ?_)
              rw [run_bind_some (run_word choice)]
              exact run_bind_none noTest

/-! ## Operands, attributes, alternatives and strings -/

/-- However deep the leaves are read as an expression, in front of others that do not go on with it,
they are read as the tree. -/
def ReadsAs (own : List Leaf) (t : Tree) : Prop :=
  ∀ limit depth rest, Stops rest →
    Only (readRule limit depth .expression) (own ++ rest) (some (t, rest))

variable {l : Leaf}

theorem plain_of_isOperand
    (operand : l.isOperand = true) :
    (l.kind = .mark || l.isWord "await") = false ∧
      (l.isWord "not" || l.isWord "lambda") = false := by
  have noMark : l.kind ≠ .mark := by
    rcases Leaf.kind_of_isOperand operand with number | word
    · simp [number]
    · simp [word]
  have noWord {s : String} := @Leaf.isWord_of_isOperand l s operand
  simp [noMark, @noWord "await" (by decide), @noWord "not" (by decide), @noWord "lambda" (by decide)]

theorem only_read_factor
    {trailers : List Tree}
    (operand : l.isOperand = true)
    (trailed : ∀ g : Grammar, Only (many g.trailer g.limit) leaves (some (trailers, rest)))
    (unraised : rest.head?.any (·.isMark "**") = false) :
    Only ((inside limit depth).read .factor) (l :: leaves)
      (some (.group .power (.leaf l :: trailers), rest)) := by
  cases depth with
  | zero => exact Or.inl rfl
  | succ depth =>
      change Only (inside limit depth).factor _ _
      exact only_factor (plain_of_isOperand operand).1 (.of_run (run_atom_operand operand))
        (trailed _) unraised

theorem only_trailers_stop
    (unseen : Unseen tightMarks leaves) :
    Only (many g.trailer g.limit) leaves (some ([], leaves)) :=
  only_many_stop (.of_run (run_trailer_stop unseen)) g.limit

theorem readsAs_operand
    (operand : l.isOperand = true) :
    ReadsAs [l] (.leaf l) := by
  intro limit depth rest stops
  have tight : Unseen tightMarks rest := stops.mark.mono (by decide)
  refine stops.only_expression (plain_of_isOperand operand).2 fun depth => ?_
  exact stops.only_arithmetic
    (only_read_factor operand (fun g => only_trailers_stop tight) (tight.mark "**" (by decide)))

theorem readsAs_attribute
    {dot own : Leaf}
    (operand : l.isOperand = true)
    (point : dot.isMark "." = true)
    (name : own.isName = true) :
    ReadsAs [l, dot, own] (.node .power [.leaf l, .node .trailer [.leaf dot, .leaf own]]) := by
  intro limit depth rest stops
  have tight : Unseen tightMarks rest := stops.mark.mono (by decide)
  have step (g : Grammar) : g.trailer.run (dot :: own :: rest) =
      some ([.node .trailer [.leaf dot, .leaf own]], rest) := by
    have found : (Reader.mark ".").run (dot :: own :: rest) = some (.leaf dot, own :: rest) := by
      rw [Reader.mark, run_take, if_pos point]
    have named : Reader.name.run (own :: rest) = some (.leaf own, rest) := by
      rw [Reader.name, run_take, if_pos name]
    have sight : (dot :: own :: rest).head?.any (·.isMark ".") = true := point
    rw [trailer, run_seenMark sight, run_bind_some found, run_bind_some named]
    rfl
  have trailed (g : Grammar) : Only (many g.trailer g.limit) (dot :: own :: rest)
      (some ([.node .trailer [.leaf dot, .leaf own]], rest)) :=
    only_many_step (.of_run (step g)) (List.cons_ne_nil _ _)
      (only_many_stop (.of_run (run_trailer_stop tight))) g.limit
  refine stops.only_expression (plain_of_isOperand operand).2 fun depth => ?_
  exact stops.only_arithmetic (only_read_factor operand trailed (tight.mark "**" (by decide)))

/-- The bar between alternatives. -/
def bar (lead : Text) : Leaf := ⟨.mark, .ofString "|", lead, false⟩

theorem readsAs_alternatives
    {lead : Text} {other : Leaf}
    (operand : l.isOperand = true)
    (operand' : other.isOperand = true) :
    ReadsAs [l, bar lead, other] (.node .bitOr [.leaf l, .leaf (bar lead), .leaf other]) := by
  intro limit depth rest stops
  let tighter := operators.tail
  have tight : Unseen tightMarks rest := stops.mark.mono (by decide)
  have barTight : Unseen tightMarks (bar lead :: other :: rest) := rfl
  have otherMarks : tighter.all (fun way => !way.2.any (bar lead).isMark) = true := rfl
  refine stops.only_expression (plain_of_isOperand operand).2 fun depth => ?_
  let g := inside limit depth
  have first : Only (g.operations tighter) (l :: bar lead :: other :: rest)
      (some (.leaf l, bar lead :: other :: rest)) := by
    refine only_operations (only_read_factor operand (fun g => only_trailers_stop barTight) rfl) ?_
    intro way member
    simpa [Unseen] using List.all_eq_true.mp otherMarks way member
  have second : Only (g.operations tighter) (other :: rest) (some (.leaf other, rest)) := by
    refine only_operations (only_read_factor operand' (fun g => only_trailers_stop tight)
      (tight.mark "**" (by decide))) fun way member => stops.mark.mono ?_
    revert way
    decide
  have joined : (oneOf ["|"]).run (bar lead :: other :: rest) =
      some ([.leaf (bar lead)], other :: rest) := rfl
  let step : Reader (List Tree) := do
    let joint ← oneOf ["|"]
    if joint.isEmpty then return [] else return joint ++ [← g.operations tighter]
  have further : Only step (bar lead :: other :: rest)
      (some ([.leaf (bar lead), .leaf other], rest)) :=
    Only.bind (.of_run joined) (Only.bind second (.of_run rfl))
  have closed : Closes (oneOf ["|"]) (g.operations tighter) rest :=
    .of_stop (run_oneOf_stop (stops.mark.mono (by decide)))
  have parts := only_many_step further (List.cons_ne_nil _ _) (only_many_stop closed) limit
  exact Only.bind first (Only.bind parts (.of_run rfl))

theorem only_ensure (condition : Bool) :
    Only (ensure condition) leaves (some ((), leaves)) := by
  cases condition with
  | false => exact Or.inl rfl
  | true => exact Or.inr rfl

theorem readsAs_string
    (string : l.kind = .string) :
    ReadsAs [l] (.leaf l) := by
  intro limit depth rest stops
  have tight : Unseen tightMarks rest := stops.mark.mono (by decide)
  have noMark (s : String) : (l :: rest).head?.any (·.isMark s) = false :=
    Leaf.isMark_of_kind (by simp [string])
  have noWord (s : String) : l.isWord s = false := Leaf.isWord_of_kind (by simp [string])
  have sight : (l :: rest).head?.any (fun l => l.kind = .string) = true := by simp [string]
  let step : Reader (List Tree) := do
    if ← sees (·.kind = .string) then return [← take (·.kind = .string)] else return []
  have taken : (take (·.kind = .string)).run (l :: rest) = some (.leaf l, rest) := by
    simp [run_take, string]
  have first : Only step (l :: rest) (some ([.leaf l], rest)) :=
    .congr (run_seen sight) (Only.bind (.of_run taken) (.of_run rfl))
  have last : Only step rest (some ([], rest)) := .congr (run_unseen stops.string) (.of_run rfl)
  have literal (g : Grammar) : Only g.strings (l :: rest) (some (.leaf l, rest)) := by
    have parts := only_many_step first (List.cons_ne_nil _ _) (only_many_stop last) g.limit
    exact Only.bind parts (Only.bind (only_ensure _) (Only.bind (only_ensure _) (.of_run rfl)))
  have atom (g : Grammar) : Only g.atom (l :: rest) (some (.leaf l, rest)) := by
    refine .congr ?_ (literal g)
    rw [Grammar.atom, run_unseenMark (noMark "("), run_unseenMark (noMark "["),
      run_unseenMark (noMark "\x7b"), run_unseenMark (noMark "."), run_seen sight]
  have factor (depth : Nat) : Only ((inside limit depth).read .factor) (l :: rest)
      (some (.leaf l, rest)) := by
    cases depth with
    | zero => exact Or.inl rfl
    | succ depth =>
        change Only (inside limit depth).factor _ _
        exact only_factor (by simp [noWord, string]) (atom _) (only_trailers_stop tight)
          (tight.mark "**" (by decide))
  refine stops.only_expression (by simp [noWord]) fun depth => ?_
  exact stops.only_arithmetic (factor depth)

end Grammar
end RecordGen.Source
