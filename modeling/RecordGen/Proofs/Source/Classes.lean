import RecordGen.Proofs.Source.Statements

/-!
# Reading a module with a class

Imports are read line by line, and a class behind its decorator with all the lines of its body. What a
text or a body is read as follows from what each of its lines is read as.
-/

namespace RecordGen.Source.Grammar

open Reader

variable {limit depth : Nat} {lead : Text} {rest : List Leaf}

/-! ## Line after line -/

/-- The lines in front of some leaves are read as one statement each; there is no result if one of
them is no statement. -/
inductive ReadsLines (limit : Nat) (rest : List Leaf) : List (List Leaf) → Option (List Tree) → Prop
  | nil : ReadsLines limit rest [] (some [])
  | cons {first : Leaf} {others : List Leaf} {lines : List (List Leaf)} {t : Option Tree}
      {ts : Option (List Tree)} :
      first.kind ≠ .dedent → first.kind ≠ .finish →
      (∀ depth, Only (readRule limit depth .statement) (first :: others ++ (lines.flatten ++ rest))
        (t.map fun t => (t, lines.flatten ++ rest))) →
      ReadsLines limit rest lines ts →
      ReadsLines limit rest ((first :: others) :: lines) (do return (← t) :: (← ts))

/-- A statement, unless a leaf of a kind is in front. -/
def statementUntil (kind : LeafKind) (limit depth : Nat) : Reader (List Tree) := do
  if ← sees (fun l => l.kind = kind) then return []
  else return [← readRule limit depth .statement]

theorem ReadsLines.only_many
    {lines : List (List Leaf)} {ts : Option (List Tree)} {kind : LeafKind}
    (reads : ReadsLines limit rest lines ts)
    (ends : kind = .dedent ∨ kind = .finish)
    (last : rest.head?.any (fun l => l.kind = kind) = true)
    (n : Nat) :
    Only (many (statementUntil kind limit depth) n) (lines.flatten ++ rest)
      (ts.map fun ts => (ts, rest)) := by
  -- A repetition whose number of steps is too small gives nothing, so no bound on the lines is needed.
  induction reads generalizing n with
  | nil => exact only_many_stop (.congr (run_seen last) (.of_run rfl)) n
  | @cons first others lines t ts noDedent noFinish read reads inductionHypothesis =>
      have inLine : (first :: others ++ (lines.flatten ++ rest)).head?.any (fun l => l.kind = kind) =
          false := by
        rcases ends with rfl | rfl
        · simp [noDedent]
        · simp [noFinish]
      rw [List.flatten_cons, List.append_assoc]
      cases t with
      | none =>
          have missing : (statementUntil kind limit depth).run
              (first :: others ++ (lines.flatten ++ rest)) = none :=
            (run_unseen inLine).trans (run_bind_none (read depth).run_eq_none)
          exact Or.inl (run_many_none missing)
      | some t =>
          have step : Only (statementUntil kind limit depth)
              (first :: others ++ (lines.flatten ++ rest)) (some ([t], lines.flatten ++ rest)) :=
            .congr (run_unseen inLine) (Only.bind (read depth) (.of_run rfl))
          cases ts with
          | none =>
              cases n with
              | zero => exact Or.inl rfl
              | succ n =>
                  have later := (inductionHypothesis n).run_eq_none
                  rcases step with missing | found
                  · exact Or.inl (run_many_none missing)
                  · exact Or.inl (by rw [run_many_step found (List.cons_ne_nil _ _), later]; rfl)
          | some ts =>
              exact only_many_step step (List.cons_ne_nil _ _) inductionHypothesis n

/-! ## Imports -/

variable {g : Grammar} {l module : Leaf}

theorem run_name
    (name : l.isName = true) :
    Reader.name.run (l :: rest) = some (.leaf l, rest) := by
  rw [Reader.name, run_take, if_pos name]

theorem only_importPath
    (name : l.isName = true)
    (unseen : rest.head?.any (·.isMark ".") = false) :
    Only g.importPath (l :: rest) (some (.leaf l, rest)) :=
  only_chain (.of_run (run_name name)) (.of_stop (run_optionalMark_stop unseen))

theorem only_importedAs
    {kind : NodeKind} {own : Reader Tree} {leaves : List Leaf} {t : Tree}
    (first : Only own leaves (some (t, rest)))
    (unnamed : rest.head?.any (·.isWord "as") = false) :
    Only (importedAs kind own) leaves (some (t, rest)) :=
  Only.bind first (.congr (run_unseenWord unnamed) (.of_run rfl))

theorem only_chain_ending
    {operand : Reader Tree} {leaves : List Leaf} {t : Tree}
    (g : Grammar) (kind : NodeKind) (s : String)
    (first : Only operand leaves (some (t, Leaf.ending :: rest))) :
    Only (g.chain kind (optionalMark s) operand) leaves (some (t, Leaf.ending :: rest)) :=
  only_chain first (.of_stop (run_optionalMark_stop rfl))

def importLine (lead : Text) (l : Leaf) : Tree :=
  .node .simpleLine
    [.node .importName [.leaf (.ofWord lead (.ofString "import")), .leaf l], .leaf Leaf.ending]

theorem only_importLine
    (name : l.isName = true) :
    Only (readRule limit depth .statement)
      (.ofWord lead (.ofString "import") :: l :: Leaf.ending :: rest)
      (some (importLine lead l, rest)) := by
  cases depth with
  | zero => exact Or.inl rfl
  | succ depth =>
      have imported : Only (importedAs .dottedImport (inside limit depth).importPath)
          (l :: Leaf.ending :: rest) (some (.leaf l, Leaf.ending :: rest)) :=
        only_importedAs (only_importPath name rfl) rfl
      have modules := only_chain_ending (inside limit depth) .dottedImports "," imported
      have small : Only (inside limit depth).importStatement
          (.ofWord lead (.ofString "import") :: l :: Leaf.ending :: rest)
          (some (.node .importName [.leaf (.ofWord lead (.ofString "import")), .leaf l],
            Leaf.ending :: rest)) :=
        Only.bind (.of_run (run_word rfl)) (Only.bind modules (.of_run rfl))
      have statement : Only (inside limit depth).smallStatement
          (.ofWord lead (.ofString "import") :: l :: Leaf.ending :: rest) _ :=
        .congr rfl small
      exact .congr rfl (only_simpleLine statement rfl)

def importFromLine (lead : Text) (module l : Leaf) : Tree :=
  .node .simpleLine
    [.node .importFrom [.leaf (.ofWord lead (.ofString "from")), .leaf module,
      .leaf (.ofWord [CodePoint.space] (.ofString "import")), .leaf l], .leaf Leaf.ending]

theorem only_importFromLine
    (path : module.isName = true)
    (name : l.isName = true) :
    Only (readRule limit depth .statement)
      (.ofWord lead (.ofString "from") :: module ::
        .ofWord [CodePoint.space] (.ofString "import") :: l :: Leaf.ending :: rest)
      (some (importFromLine lead module l, rest)) := by
  cases depth with
  | zero => exact Or.inl rfl
  | succ depth =>
      let joint : Leaf := .ofWord [CodePoint.space] (.ofString "import")
      have noMark {s : String} (leaves : List Leaf) : (module :: leaves).head?.any (·.isMark s) =
          false :=
        Leaf.isMark_of_isOperand (by simp [Leaf.isOperand, path])
      have noMark' {s : String} (leaves : List Leaf) : (l :: leaves).head?.any (·.isMark s) =
          false :=
        Leaf.isMark_of_isOperand (by simp [Leaf.isOperand, name])
      have dots : Only (many (optionalMark ".") limit)
          (module :: joint :: l :: Leaf.ending :: rest) (some ([], _)) :=
        only_many_stop (.of_run (run_optionalMark_stop (noMark _))) limit
      have whole : Only (inside limit depth).importPath
          (module :: joint :: l :: Leaf.ending :: rest) (some (.leaf module, _)) :=
        only_importPath path rfl
      have imported : Only (importedAs .importedName Reader.name) (l :: Leaf.ending :: rest)
          (some (.leaf l, Leaf.ending :: rest)) :=
        only_importedAs (.of_run (run_name name)) rfl
      have names := only_chain_ending (inside limit depth) .importedNames "," imported
      have small : Only (inside limit depth).importFromStatement
          (.ofWord lead (.ofString "from") :: module :: joint :: l :: Leaf.ending :: rest)
          (some (.node .importFrom [.leaf (.ofWord lead (.ofString "from")), .leaf module,
            .leaf joint, .leaf l], Leaf.ending :: rest)) := by
        refine Only.bind (.of_run (run_word rfl)) (Only.bind dots ?_)
        refine Only.bind (.of_run run_sees) ?_
        simp only [List.isEmpty_nil, Bool.true_or, ↓reduceIte]
        refine Only.bind whole (Only.bind (.of_run rfl) (Only.bind (.of_run (run_word rfl)) ?_))
        refine Only.bind (.of_run run_sees) (Only.bind (.of_run run_sees) ?_)
        simp only [noMark', Bool.false_eq_true, ↓reduceIte]
        exact Only.bind names (Only.bind (.of_run rfl) (.of_run rfl))
      have statement : Only (inside limit depth).smallStatement
          (.ofWord lead (.ofString "from") :: module :: joint :: l :: Leaf.ending :: rest) _ :=
        .congr rfl small
      exact .congr rfl (only_simpleLine statement rfl)

/-! ## Classes -/

def classWord : Leaf := .ofWord [] (.ofString "class")

/-- The lines of a decorator and of the class under it, up to its body. -/
def classHead (lead : Text) (decorator name : Leaf) : List Leaf :=
  [.ofMark lead "@", decorator, Leaf.ending, classWord, name, colon, Leaf.ending, Leaf.opening]

/-- A class behind a decorator, given the statements of its body. -/
def classTree (lead : Text) (decorator name : Leaf) (body : List Tree) : Tree :=
  .node .decorated
    [.node .decorator [.leaf (.ofMark lead "@"), .leaf decorator, .leaf Leaf.ending],
      .node .classBlock [.leaf classWord, .leaf name, .leaf colon,
        .node .block (.leaf Leaf.ending :: .leaf Leaf.opening :: body ++ [.leaf Leaf.closing])]]

variable {decorator : Leaf} {leaves : List Leaf}

theorem only_named
    (name : l.isName = true)
    (stops : Stops rest)
    (unnamed : rest.head?.any (·.isMark ":=") = false) :
    Only (inside limit depth).named (l :: rest) (some (.leaf l, rest)) := by
  have operand : l.isOperand = true := by simp [Leaf.isOperand, name]
  have value : Only ((inside limit depth).read .expression) (l :: rest) (some (.leaf l, rest)) :=
    readsAs_operand operand limit depth rest stops
  have behind : ((l :: rest).drop 1).head?.any (·.isMark ":=") = false := unnamed
  have parts : Only (inside limit depth).namedParts (l :: rest) (some ([.leaf l], rest)) := by
    refine Only.bind (.of_run run_sees) (Only.bind (.of_run run_seesBehind) ?_)
    rw [behind, Bool.and_false, if_neg Bool.false_ne_true]
    exact Only.bind value (.of_run rfl)
  exact Only.bind parts (.of_run rfl)

theorem ReadsLines.only_indented
    {lines : List (List Leaf)} {ts : Option (List Tree)}
    (reads : ReadsLines limit (Leaf.closing :: rest) lines ts)
    (nonempty : lines ≠ []) :
    Only ((inside limit depth).indented ((inside limit depth).read .statement))
      (Leaf.ending :: Leaf.opening :: (lines.flatten ++ Leaf.closing :: rest))
      (ts.map fun ts =>
        (.leaf Leaf.ending :: .leaf Leaf.opening :: ts ++ [.leaf Leaf.closing], rest)) := by
  have start : (take (·.kind = .lineEnd)).run
      (Leaf.ending :: Leaf.opening :: (lines.flatten ++ Leaf.closing :: rest)) =
        some (.leaf Leaf.ending, _) := rfl
  have deeper : (take (·.kind = .indent)).run
      (Leaf.opening :: (lines.flatten ++ Leaf.closing :: rest)) =
        some (.leaf Leaf.opening, _) := rfl
  cases reads with
  | nil => exact absurd rfl nonempty
  | @cons first others lines t ts noDedent noFinish read later =>
      rw [List.flatten_cons, List.append_assoc] at start deeper ⊢
      have more := @ReadsLines.only_many limit depth _ lines ts .dedent later (Or.inl rfl) rfl limit
      cases t with
      | none =>
          refine Only.bind (.of_run start) (Only.bind (.of_run deeper) (Or.inl ?_))
          exact run_bind_none (read depth).run_eq_none
      | some t =>
          refine Only.bind (.of_run start) (Only.bind (.of_run deeper) (Only.bind (read depth) ?_))
          cases ts with
          | none => exact Or.inl (run_bind_none more.run_eq_none)
          | some ts => exact Only.bind more (Only.bind (.of_run rfl) (.of_run rfl))

theorem ReadsLines.only_classBlock
    {lines : List (List Leaf)} {ts : Option (List Tree)}
    (reads : ReadsLines limit (Leaf.closing :: rest) lines ts)
    (nonempty : lines ≠ [])
    (name : l.isName = true) :
    Only (inside limit depth).classBlock
      (classWord :: l :: colon :: Leaf.ending :: Leaf.opening ::
        (lines.flatten ++ Leaf.closing :: rest))
      (ts.map fun ts => (.node .classBlock [.leaf classWord, .leaf l, .leaf colon,
        .node .block (.leaf Leaf.ending :: .leaf Leaf.opening :: ts ++ [.leaf Leaf.closing])],
          rest)) := by
  have body := @ReadsLines.only_indented limit depth rest lines ts reads nonempty
  have own : Reader.name.run
      (l :: colon :: Leaf.ending :: Leaf.opening :: (lines.flatten ++ Leaf.closing :: rest)) =
        some (.leaf l, _) :=
    run_name name
  refine Only.bind (.of_run (run_word rfl)) (Only.bind (.of_run own) ?_)
  refine Only.bind (.of_run run_sees) (Only.bind (.of_run rfl) ?_)
  cases ts with
  | none =>
      refine Or.inl (run_bind_none ?_)
      exact (run_bind_some rfl).trans ((run_seen rfl).trans (run_bind_none body.run_eq_none))
  | some ts =>
      refine Only.bind (Only.bind (.of_run rfl) ?_) (.of_run rfl)
      exact .congr (run_seen rfl) (Only.bind body (.of_run rfl))

theorem only_decorated
    {own : Option Tree}
    (dataclass : decorator.isName = true)
    (block : ∀ depth, Only (inside limit depth).classBlock (classWord :: leaves)
      (own.map fun own => (own, rest))) :
    Only (readRule limit depth .statement)
      (.ofMark lead "@" :: decorator :: Leaf.ending :: classWord :: leaves)
      (own.map fun own => (.node .decorated
        [.node .decorator [.leaf (.ofMark lead "@"), .leaf decorator, .leaf Leaf.ending], own],
        rest)) := by
  cases depth with
  | zero => exact Or.inl rfl
  | succ depth =>
      let mark : Leaf := .ofMark lead "@"
      let g := inside limit depth
      let step : Reader (List Tree) := do
        if ← seesMark "@" then
          let first ← Reader.mark "@"
          let own ← g.named
          return [.node .decorator [first, own, ← take (·.kind = .lineEnd)]]
        else return []
      have value : Only g.named (decorator :: Leaf.ending :: classWord :: leaves)
          (some (.leaf decorator, Leaf.ending :: classWord :: leaves)) :=
        only_named dataclass stops_ending rfl
      have first : Only step (mark :: decorator :: Leaf.ending :: classWord :: leaves)
          (some ([.node .decorator [.leaf mark, .leaf decorator, .leaf Leaf.ending]],
            classWord :: leaves)) := by
        refine .congr (run_seenMark rfl) (Only.bind (.of_run rfl) (Only.bind value ?_))
        exact Only.bind (.of_run rfl) (.of_run rfl)
      have last : Only step (classWord :: leaves) (some ([], classWord :: leaves)) :=
        .congr (run_unseenMark rfl) (.of_run rfl)
      -- One decorator is read, and then the word for the class stops the repetition.
      have decorators :=
        only_many_step first (List.cons_ne_nil _ _) (only_many_stop last) limit
      have only : Only g.decorated (mark :: decorator :: Leaf.ending :: classWord :: leaves)
          (own.map fun own => (.node .decorated
            [.node .decorator [.leaf mark, .leaf decorator, .leaf Leaf.ending], own], rest)) := by
        have isClass : (classWord :: leaves).head?.any (·.isWord "class") = true := rfl
        refine Only.bind decorators (Only.bind (.of_run run_sees) (Only.bind (.of_run run_sees) ?_))
        rw [if_pos isClass]
        cases own with
        | none => exact Or.inl (run_bind_none (block depth).run_eq_none)
        | some own => exact Only.bind (block depth) (.of_run rfl)
      exact .congr rfl only

theorem ReadsLines.only_class
    {lines : List (List Leaf)} {ts : Option (List Tree)}
    (reads : ReadsLines limit (Leaf.closing :: rest) lines ts)
    (nonempty : lines ≠ [])
    (dataclass : decorator.isName = true)
    (name : l.isName = true) :
    Only (readRule limit depth .statement)
      (classHead lead decorator l ++ (lines.flatten ++ Leaf.closing :: rest))
      (ts.map fun ts => (classTree lead decorator l ts, rest)) := by
  have block (depth : Nat) := @ReadsLines.only_classBlock limit depth rest l lines ts reads nonempty
    name
  have only := @only_decorated limit depth lead rest decorator _
    (ts.map fun ts => .node .classBlock [.leaf classWord, .leaf l, .leaf colon,
        .node .block (.leaf Leaf.ending :: .leaf Leaf.opening :: ts ++ [.leaf Leaf.closing])])
    dataclass fun depth => by rw [Option.map_map]; exact block depth
  rw [Option.map_map] at only
  exact only

theorem run_class_none
    (dataclass : decorator.isName = true)
    (noName : l.isName = false) :
    (readRule limit depth .statement).run
      (.ofMark lead "@" :: decorator :: Leaf.ending :: classWord :: l :: rest) = none := by
  have unnamed : Reader.name.run (l :: rest) = none := run_take_none noName
  have missing (depth : Nat) : (inside limit depth).classBlock.run (classWord :: l :: rest) = none :=
    (run_bind_some (run_word rfl)).trans (run_bind_none unnamed)
  exact (@only_decorated limit depth lead [] decorator _ none dataclass
    fun depth => Or.inl (missing depth)).run_eq_none

/-! ## Texts -/

theorem ReadsLines.only_wholeText
    {lines : List (List Leaf)} {ts : Option (List Tree)}
    (reads : ReadsLines limit [Leaf.last] lines ts) :
    Only (wholeText (inside limit depth)) (lines.flatten ++ [Leaf.last])
      (ts.map fun ts => (.node .text (ts ++ [.leaf Leaf.last]), [])) := by
  have statements := @ReadsLines.only_many limit depth _ lines ts .finish reads (Or.inr rfl) rfl limit
  cases ts with
  | none => exact Or.inl (run_bind_none statements.run_eq_none)
  | some ts => exact Only.bind statements (Only.bind (.of_run rfl) (.of_run rfl))

end RecordGen.Source.Grammar
