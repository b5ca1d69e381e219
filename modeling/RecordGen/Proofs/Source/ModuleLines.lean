import RecordGen.Proofs.Source.EmptyLines
import RecordGen.Proofs.Text.Pieces

/-!
# The lines of imports, of a class and of its fields

Imports, a class behind its decorator and names with their types are laid out with single spaces between
their words, none around a dot or in front of a colon, and nothing of their hidden parentheses.
-/

namespace RecordGen.Source

open Grammar

variable {style : LineStyle} {depth blanks : Nat} {lead t : Text} {l : Leaf} {remarks : List LinePlan}
  {role : Role} {statement : Tree}

/-- A statement without breaks whose leaves make a row, wherever it stands, is laid out as its row. -/
theorem isStatement_simpleLine
    (flat : statement.isFlat = true)
    (noEllipsis : (Tree.node .simpleLine [statement, .leaf Leaf.ending]).isEllipsisLine = false)
    (introduces : Introduces (LogicalLine.Follows style) depth blanks lead remarks)
    (rows : ∀ path, ∃ place places, placesOf (statementPath path) statement = place :: places ∧
      place.1.lead = lead ∧ IsHead role place ∧ IsRow style (place :: places) ∧
        Line.margin depth ++ rowText (place :: places) = t)
    (noLineFeed : CodePoint.lineFeed ∉ t) :
    IsStatement (LogicalLine.Follows style) style depth
      (.node .simpleLine [statement, .leaf Leaf.ending])
      (remarks ++ [⟨depth, blanks, role, t⟩]) := by
  refine ⟨noEllipsis, fun path own => ?_⟩
  obtain ⟨place, places, spelled, rfl, isHead, row, text⟩ := rows path
  rw [eventsOf_simpleLine flat own, spelled]
  exact .line row introduces (fun line shown => shown.follows isHead row text noLineFeed) rfl
    (by simp [Leaf.ending])

/-! ## Leaves of a module -/

/-- A word behind a space. -/
def spacedWord (t : Text) : Leaf := .ofWord [CodePoint.space] t

theorem shown_ofWord (lead t : Text) : (Leaf.ofWord lead t).shown = t := rfl

theorem shown_spacedWord (t : Text) : (spacedWord t).shown = t := rfl

theorem shown_hiddenMark (s : String) (lead : Text) : (hiddenMark s lead).shown = [] := rfl

theorem shown_ofMark (lead : Text) (s : String) : (Leaf.ofMark lead s).shown = Text.ofString s := rfl

theorem margin_zero : Line.margin 0 = [] := rfl

theorem commentMark_not_mem_spacedWord (t : Text) : commentMark ∉ (spacedWord t).lead := by
  have fixed : commentMark ∉ [CodePoint.space] := by decide
  exact fixed

theorem isSteady_ofWord
    {path : Path}
    (lead t : Text)
    (elsewhere : path.isIn .simpleLine = false) :
    IsSteady style (.ofWord lead t, path) :=
  (Leaf.isCanonical_word rfl).isSteady elsewhere

theorem lineFeed_not_mem_words
    {words : List Text}
    (free : ∀ word ∈ words, CodePoint.lineFeed ∉ word) :
    CodePoint.lineFeed ∉ Text.join [CodePoint.space] words := by
  intro member
  rcases Text.mem_join member with between | ⟨word, inWords, found⟩
  · revert between
    decide
  · exact free word inWords found

/-! ## Leads at the margin -/

/-- The lines of the comments of a lead at the margin. -/
def leadPlans (lead : Text) : List LinePlan :=
  (leadComments false lead).map fun c => ⟨0, c.blanks, .comment, c.text⟩

/-- The empty lines behind the comments of a lead. -/
def leadGap (lead : Text) : Nat := (leadBlanks (leadComments false lead) lead).1

/-- A lead at the margin is what a layout writes for it: its comments, and up to two empty lines. -/
structure IsTidy (lead : Text) : Prop where
  noFormFeed : ∀ c ∈ leadComments false lead, c.formFeed = false
  noGapFeed : (leadBlanks (leadComments false lead) lead).2 = false
  few : leadGap lead ≤ 2
  noSwitch : HasNoSwitch lead
  written : (leadPlans lead).flatMap LinePlan.entry ++
    List.replicate (leadGap lead) CodePoint.lineFeed = lead

theorem isTidy_nil : IsTidy [] :=
  ⟨by simp [leadComments], rfl, by decide, hasNoSwitch_of_not_mem List.not_mem_nil, rfl⟩

theorem isTidy_lineFeed : IsTidy [CodePoint.lineFeed] :=
  ⟨List.forall_mem_nil _, rfl, by decide, hasNoSwitch_of_not_mem (by decide), rfl⟩

theorem isTidy_lineFeeds : IsTidy [CodePoint.lineFeed, CodePoint.lineFeed] :=
  ⟨List.forall_mem_nil _, rfl, by decide, hasNoSwitch_of_not_mem (by decide), rfl⟩

/-- A lead puts its comments on lines of their own. -/
theorem IsTidy.introduces
    (tidy : IsTidy lead) :
    Introduces (LogicalLine.Follows style) 0 (leadGap lead) lead (leadPlans lead) where
  noFormFeed := tidy.noFormFeed
  comments := by
    rw [leadPlans, List.forall₂_map_right_iff]
    exact List.forall₂_same.mpr fun c _ line shown => shown.follows_comment
  blanks := Prod.ext rfl tidy.noGapFeed

/-! ## Texts of lines -/

/-- The text of a line is one of the lines of the text that lines make up. -/
theorem LinePlan.mem_pieces
    {plan : LinePlan} {plans : List LinePlan}
    (member : plan ∈ plans)
    (oneLine : CodePoint.lineFeed ∉ plan.text) :
    plan.text ∈ Text.pieces CodePoint.lineFeed (plans.flatMap LinePlan.entry) := by
  have entry (other : LinePlan) (rest : Text) : other.entry ++ rest =
      List.replicate other.blanks CodePoint.lineFeed ++ other.text ++ CodePoint.lineFeed :: rest := by
    simp [LinePlan.entry, Text.line]
  have behind (n : Nat) (rest : Text) :
      plan.text ∈ Text.pieces CodePoint.lineFeed (List.replicate n CodePoint.lineFeed ++ plan.text ++
        CodePoint.lineFeed :: rest) := by
    rw [Text.pieces_append_mark]
    refine List.mem_append_left _ ?_
    induction n with
    | zero => simp [Text.pieces_of_not_mem oneLine]
    | succ n inductionHypothesis =>
        rw [List.replicate_succ, List.cons_append, Text.pieces, if_pos rfl]
        exact List.mem_cons_of_mem _ inductionHypothesis
  induction plans with
  | nil => cases member
  | cons other plans inductionHypothesis =>
      rw [List.flatMap_cons, entry]
      rcases List.mem_cons.mp member with rfl | later
      · exact behind _ _
      · rw [Text.pieces_append_mark]
        exact List.mem_append_right _ (inductionHypothesis later)

/-! ## Imports -/

theorem isStatement_importLine
    {m : Text}
    (free : CodePoint.lineFeed ∉ m)
    (introduces : Introduces (LogicalLine.Follows style) 0 blanks lead remarks) :
    IsStatement (LogicalLine.Follows style) style 0 (importLine lead (spacedWord m))
      (remarks ++ [⟨0, blanks, .imports, Text.join [CodePoint.space] [.ofString "import", m]⟩]) := by
  let verb : Leaf := .ofWord lead (.ofString "import")
  have noLineFeed : CodePoint.lineFeed ∉ Text.join [CodePoint.space] [.ofString "import", m] :=
    lineFeed_not_mem_words (List.forall_mem_cons.mpr ⟨by decide, List.forall_mem_singleton.mpr free⟩)
  refine isStatement_simpleLine rfl rfl introduces (fun path => ?_) noLineFeed
  let behind : Path := ⟨.importName, [.leaf verb], []⟩ :: statementPath path
  refine ⟨_, [(spacedWord m, behind)], rfl, rfl, ?_, ?_, ?_⟩
  · exact ⟨by simp [Leaf.ofWord], ⟨rfl, rfl⟩, by decide, rfl, rfl, rfl⟩
  · refine ⟨Nat.le_refl 2, ?_, List.forall_mem_singleton.mpr (commentMark_not_mem_spacedWord m)⟩
    exact List.forall_mem_cons.mpr ⟨isSteady_ofWord _ _ rfl,
      List.forall_mem_singleton.mpr (isSteady_ofWord _ _ rfl)⟩
  · have spaced : hasSpaceBefore (spacedWord m) behind = true := rfl
    simp only [rowText, spacedShown, spaced, List.flatMap_cons, List.flatMap_nil, shown_ofWord,
      shown_spacedWord, Text.join, margin_zero]
    simp

theorem isStatement_wrappedImportLine
    {m n : Text}
    (free : CodePoint.lineFeed ∉ m ∧ CodePoint.lineFeed ∉ n)
    (introduces : Introduces (LogicalLine.Follows style) 0 blanks lead remarks) :
    IsStatement (LogicalLine.Follows style) style 0
      (wrappedImportLine lead (spacedWord m) (spacedWord n))
      (remarks ++ [⟨0, blanks, .imports,
        Text.join [CodePoint.space] [.ofString "from", m, .ofString "import", n]⟩]) := by
  have noLineFeed : CodePoint.lineFeed ∉
      Text.join [CodePoint.space] [.ofString "from", m, .ofString "import", n] := by
    refine lineFeed_not_mem_words ?_
    simp only [List.forall_mem_cons]
    exact ⟨by decide, free.1, by decide, free.2, by simp⟩
  refine isStatement_simpleLine rfl rfl introduces (fun path => ?_) noLineFeed
  -- The leaves of the line, each with those in front of it and those behind it.
  let verb : Leaf := .ofWord lead (.ofString "from")
  let other : Leaf := spacedWord (.ofString "import")
  let opening := hiddenMark "(" []
  let closing := hiddenMark ")" []
  let place (before after : List Leaf) : Path :=
    ⟨.importFrom, before.map Tree.leaf, after.map Tree.leaf⟩ :: statementPath path
  let module := place [verb] [other, opening, spacedWord n, closing]
  let behindModule := place [spacedWord m, verb] [opening, spacedWord n, closing]
  let opens := place [other, spacedWord m, verb] [spacedWord n, closing]
  let name := place [opening, other, spacedWord m, verb] [closing]
  let closes := place [spacedWord n, opening, other, spacedWord m, verb] []
  refine ⟨_, [(spacedWord m, module), (other, behindModule), (opening, opens), (spacedWord n, name),
    (closing, closes)], rfl, rfl, ?_, ?_, ?_⟩
  · exact ⟨by simp [Leaf.ofWord], ⟨rfl, rfl⟩, by decide, rfl, rfl, rfl⟩
  · refine ⟨Nat.le_add_left 2 4, ?_, ?_⟩
    · simp only [List.forall_mem_cons]
      exact ⟨isSteady_ofWord _ _ rfl, isSteady_ofWord _ _ rfl, isSteady_ofWord _ _ rfl,
        (Leaf.isCanonical_mark rfl rfl).isSteady rfl, isSteady_ofWord _ _ rfl,
        (Leaf.isCanonical_mark rfl rfl).isSteady rfl, by simp⟩
    · simp only [List.tail_cons, List.forall_mem_cons]
      exact ⟨commentMark_not_mem_spacedWord m, commentMark_not_mem_spacedWord _,
        List.not_mem_nil, commentMark_not_mem_spacedWord n, List.not_mem_nil, by simp⟩
  · have behindFrom : hasSpaceBefore (spacedWord m) module = true := ite_self true
    have behindName : hasSpaceBefore other behindModule = true := rfl
    have opened : hasSpaceBefore opening opens = true := rfl
    have inside : hasSpaceBefore (spacedWord n) name = false := rfl
    have closed : hasSpaceBefore closing closes = false := rfl
    simp only [rowText, spacedShown, behindFrom, behindName, opened, inside, closed,
      List.flatMap_cons, List.flatMap_nil, Text.join, margin_zero]
    simp [other, opening, closing, shown_ofWord, shown_spacedWord, shown_hiddenMark]

/-! ## Classes -/

theorem LogicalLine.Shows.follows_decorator
    {line : LogicalLine} {path : Path}
    (free : CodePoint.lineFeed ∉ t)
    (shows_ : line.Shows ⟨0, blanks, decoratorPlaces lead (.ofWord [] t) path⟩) :
    line.Follows style ⟨0, blanks, .decorates, Text.ofString "@" ++ t⟩ := by
  have noLineFeed : CodePoint.lineFeed ∉ Text.ofString "@" ++ t := by
    have fixed : CodePoint.lineFeed ∉ Text.ofString "@" := by decide
    simp [fixed, free]
  refine shows_.follows ?_ (isRow_decorator rfl List.not_mem_nil path) ?_ noLineFeed
  · exact ⟨by simp [Leaf.ofMark], ⟨rfl, rfl⟩, by decide, rfl, rfl, rfl⟩
  · have close : hasSpaceBefore (.ofWord [] t)
        (⟨.decorator, [.leaf (.ofMark lead "@")], [.leaf Leaf.ending]⟩ :: path) = false := rfl
    simp only [rowText, List.flatMap_cons, List.flatMap_nil, spacedShown, close]
    simp [margin_zero, shown_ofMark, shown_ofWord]

theorem LogicalLine.Shows.follows_class
    {line : LogicalLine} {block : Tree} {path : Path}
    (free : CodePoint.lineFeed ∉ t)
    (shows_ : line.Shows ⟨0, blanks, classPlaces (spacedWord t) block path⟩) :
    line.Follows style
      ⟨0, blanks, .opensClass, Text.ofString "class " ++ t ++ Text.ofString ":"⟩ := by
  have noLineFeed : CodePoint.lineFeed ∉ Text.ofString "class " ++ t ++ Text.ofString ":" := by
    have fixed : CodePoint.lineFeed ∉ Text.ofString "class " ∧
        CodePoint.lineFeed ∉ Text.ofString ":" := by decide
    simp [fixed, free]
  refine shows_.follows ?_ (isRow_class rfl (commentMark_not_mem_spacedWord t) block path) ?_
    noLineFeed
  · exact ⟨by simp [classWord, Leaf.ofWord], ⟨rfl, rfl⟩, by decide, rfl, rfl, rfl⟩
  · have spaced : hasSpaceBefore (spacedWord t)
        (⟨.classBlock, [.leaf classWord], [.leaf colon, block]⟩ :: path) = true := rfl
    have close : hasSpaceBefore colon
        (⟨.classBlock, [.leaf (spacedWord t), .leaf classWord], [block]⟩ :: path) = false := rfl
    have word : Text.ofString "class " = Text.ofString "class" ++ [CodePoint.space] := by decide
    simp only [rowText, List.flatMap_cons, List.flatMap_nil, spacedShown, spaced, close]
    simp [margin_zero, classWord, colon, shown_ofMark, shown_ofWord, shown_spacedWord, word]

/-! ## Fields -/

theorem hasSpaceBefore_behindOpening
    {before : Leaf} {kind : NodeKind} {others after : List Tree} {outer : Path}
    (opens : before.opens = true) :
    hasSpaceBefore l (⟨kind, .leaf before :: others, after⟩ :: outer) = false := by
  have previous : Path.previous? (⟨kind, .leaf before :: others, after⟩ :: outer) =
      some (.leaf before) := rfl
  simp [hasSpaceBefore, previous, opens]

variable {type : Tree} {seen : Text}

/-- The way up from what stands in hidden parentheses. -/
def insidePath (lead : Text) (outer : Path) : Path :=
  ⟨.atom, [parenthesis "(" lead true], [parenthesis ")" [] true]⟩ :: outer

theorem IsTypeTree.flatMap_spacedShown
    (isType : IsTypeTree type seen)
    (lead : Text)
    (outer : Path) :
    (placesOf (insidePath lead outer) type).flatMap spacedShown = seen := by
  -- The places are spelled out, because the space in front of a leaf depends on what it stands in.
  cases isType with
  | @single l whole =>
      have inside : hasSpaceBefore l (insidePath lead outer) = false :=
        hasSpaceBefore_behindOpening rfl
      simp [placesOf, spacedShown, inside]
  | @qualified l own word noAwait word' =>
      let dot : Leaf := .ofMark [] "."
      let path := insidePath lead outer
      let ownPath : Path := ⟨.power, [], [.node .trailer [.leaf dot, .leaf own]]⟩ :: path
      let dotPath : Path := ⟨.trailer, [], [.leaf own]⟩ :: ⟨.power, [.leaf l], []⟩ :: path
      let namePath : Path := ⟨.trailer, [.leaf dot], []⟩ :: ⟨.power, [.leaf l], []⟩ :: path
      have first : hasSpaceBefore l ownPath = false := by
        obtain ⟨_, t, lead, hidden⟩ := l
        cases word
        rfl
      have second : hasSpaceBefore dot dotPath = false := by
        obtain ⟨_, t, lead, hidden⟩ := l
        cases word
        rfl
      have third : hasSpaceBefore own namePath = false := by
        obtain ⟨_, t, lead, hidden⟩ := own
        cases word'
        rfl
      have places : placesOf path (.node .power [.leaf l, .node .trailer [.leaf dot, .leaf own]]) =
          [(l, ownPath), (dot, dotPath), (own, namePath)] := rfl
      rw [places]
      simp only [List.flatMap_cons, List.flatMap_nil, spacedShown, first, second, third]
      simp [dot, shown_ofMark]
  | @alternatives l own barLead operand word =>
      let mark : Leaf := bar barLead
      let path := insidePath lead outer
      let ownPath : Path := ⟨.bitOr, [], [.leaf mark, .leaf own]⟩ :: path
      let markPath : Path := ⟨.bitOr, [.leaf l], [.leaf own]⟩ :: path
      let otherPath : Path := ⟨.bitOr, [.leaf mark, .leaf l], []⟩ :: path
      have both : hasSpaceBefore l ownPath = false ∧ hasSpaceBefore mark markPath = true := by
        obtain ⟨_, t, lead, hidden⟩ := l
        rcases operand with same | same <;> cases same <;> exact ⟨rfl, rfl⟩
      have third : hasSpaceBefore own otherPath = true := by
        obtain ⟨_, t, lead, hidden⟩ := own
        cases word
        rfl
      have places : placesOf path (.node .bitOr [.leaf l, .leaf mark, .leaf own]) =
          [(l, ownPath), (mark, markPath), (own, otherPath)] := rfl
      have between : Text.ofString " | " =
          CodePoint.space :: (Text.ofString "|" ++ [CodePoint.space]) := by decide
      have shown : mark.shown = Text.ofString "|" := rfl
      rw [places]
      simp only [List.flatMap_cons, List.flatMap_nil, spacedShown, both, third]
      simp [shown, between]

theorem IsTypeTree.elsewhere
    (isType : IsTypeTree type seen)
    (lead : Text)
    (outer : Path) :
    ∀ place ∈ placesOf (insidePath lead outer) type, place.2.isIn .simpleLine = false := by
  cases isType with
  | single => exact List.forall_mem_singleton.mpr rfl
  | qualified =>
      simp only [placesOf, childPlaces, List.nil_append, List.cons_append, List.forall_mem_cons]
      exact ⟨rfl, rfl, rfl, by simp⟩
  | alternatives =>
      simp only [placesOf, childPlaces, List.nil_append, List.cons_append, List.forall_mem_cons]
      exact ⟨rfl, rfl, rfl, by simp⟩

theorem IsTypeTree.isFlat
    (isType : IsTypeTree type seen)
    (canonical : ∀ l ∈ type.leaves, l.IsCanonical) :
    type.isFlat = true := by
  have flat {l : Leaf} (own : l.IsCanonical) : (l.inside && !l.isMark ";") = true := by
    have plain := own.plain
    simp only [Leaf.isPlain, Bool.and_eq_true] at plain
    simp [plain.1.1.1.1.1, plain.1.1.2]
  cases isType with
  | single => exact flat (canonical _ (by simp [Tree.leaves]))
  | qualified =>
      obtain ⟨first, -, last⟩ := forall_mem_qualified.mp canonical
      simp only [Tree.isFlat, Tree.allFlat, flat first, flat last]
      rfl
  | alternatives =>
      obtain ⟨first, -, last⟩ := forall_mem_alternatives.mp canonical
      simp only [Tree.isFlat, Tree.allFlat, flat first, flat last]
      rfl

/-- What holds of all leaves holds of them behind another lead. -/
theorem IsTypeTree.forall_withLead
    {holds : Leaf → Prop}
    (isType : IsTypeTree type seen)
    (lead : Text)
    (all : ∀ l ∈ type.leaves, holds l)
    (stays : ∀ l, holds l → holds { l with lead }) :
    ∀ l ∈ (type.withLead lead).leaves, holds l := by
  cases isType with
  | @single l whole => exact List.forall_mem_singleton.mpr (stays l (all l (by simp [Tree.leaves])))
  | qualified =>
      obtain ⟨first, others⟩ := forall_mem_qualified.mp all
      exact forall_mem_qualified.mpr ⟨stays _ first, others⟩
  | alternatives =>
      obtain ⟨first, others⟩ := forall_mem_alternatives.mp all
      exact forall_mem_alternatives.mpr ⟨stays _ first, others⟩

theorem not_mem_lead
    {c : CodePoint} {t : Tree}
    (absent : ∀ l ∈ t.leaves, c ∉ l.lead) :
    c ∉ t.lead := by
  unfold Tree.lead Tree.firstLeaf?
  cases leaves : t.leaves with
  | nil => simp
  | cons l others => exact absent l (by simp [leaves])

/-- A keyword is no name of a field. -/
theorem isWord_of_isFieldName
    {name : Text} {s : String}
    (isFieldName : isFieldName name = true)
    (keyword : isKeyword (.ofString s) = true) :
    (Leaf.ofWord lead name).isWord s = false := by
  have different : name ≠ .ofString s := by
    rintro rfl
    simp [Source.isFieldName, keyword] at isFieldName
  simp [Leaf.isWord, Leaf.ofWord, different]

theorem isHead_name
    {name : Text}
    (isFieldName : isFieldName name = true)
    (path : Path) :
    IsHead .plain (.ofWord lead name, path) where
  kinds := by simp [Leaf.ofWord]
  noFunction := ⟨isWord_of_isFieldName isFieldName (by decide),
    isWord_of_isFieldName isFieldName (by decide)⟩
  noComment := by decide
  imports := by
    have noImport : (Leaf.ofWord lead name).isWord "import" = false :=
      isWord_of_isFieldName isFieldName (by decide)
    have noFrom : (Leaf.ofWord lead name).isWord "from" = false :=
      isWord_of_isFieldName isFieldName (by decide)
    simp [noImport, noFrom]
  decorates := rfl
  opensClass := isWord_of_isFieldName isFieldName (by decide)

/-- A name gets a type in a line of its own. -/
theorem isStatement_wrappedLine
    {name : Text}
    (isFieldName : isFieldName name = true)
    (isType : IsTypeTree type seen)
    (canonical : ∀ l ∈ type.leaves, l.IsCanonical)
    (uncommented : ∀ l ∈ type.leaves, commentMark ∉ l.lead)
    (introduces : Introduces (LogicalLine.Follows style) depth blanks lead remarks)
    (text : Line.margin depth ++ (name ++ (Text.ofString ": " ++ seen)) = t)
    (noLineFeed : CodePoint.lineFeed ∉ t) :
    IsStatement (LogicalLine.Follows style) style depth (wrappedLine (.ofWord lead name) type)
      (remarks ++ [⟨depth, blanks, .plain, t⟩]) := by
  let inner := type.withLead []
  have innerType : IsTypeTree inner seen := isType.withLead []
  have innerCanonical : ∀ l ∈ inner.leaves, l.IsCanonical :=
    isType.forall_withLead [] canonical fun l own => own.withLead []
  have innerUncommented : ∀ l ∈ inner.leaves, commentMark ∉ l.lead :=
    isType.forall_withLead [] uncommented fun l own => List.not_mem_nil
  have flat : inner.isFlat = true := innerType.isFlat innerCanonical
  have allFlat : (Tree.node .assignment [.leaf (.ofWord lead name),
      .node .hint [.leaf colon, type.inParentheses true]]).isFlat = true := by
    change (true && (true && ((true && (true && ((true && (true && (inner.isFlat && _))) && _))) &&
      _))) = true
    rw [flat]
    rfl
  refine isStatement_simpleLine allFlat rfl introduces (fun path => ?_) noLineFeed
  -- The leaves of the line: the name, the colon, and the annotation in its parentheses.
  let opening : Leaf := hiddenMark "(" type.lead
  let closing : Leaf := hiddenMark ")" []
  let hintPath : Path := ⟨.assignment, [.leaf (.ofWord lead name)], []⟩ :: statementPath path
  let typePath : Path := ⟨.hint, [.leaf colon], []⟩ :: hintPath
  let colonPath : Path := ⟨.hint, [], [type.inParentheses true]⟩ :: hintPath
  let opens : Path := ⟨.atom, [], [inner, .leaf closing]⟩ :: typePath
  let closes : Path := ⟨.atom, [inner, .leaf opening], []⟩ :: typePath
  let innerPlaces := placesOf (insidePath type.lead typePath) inner
  let namePath : Path :=
    ⟨.assignment, [], [.node .hint [.leaf colon, type.inParentheses true]]⟩ :: statementPath path
  have spelled : placesOf (statementPath path) (.node .assignment [.leaf (.ofWord lead name),
      .node .hint [.leaf colon, type.inParentheses true]]) =
      (.ofWord lead name, namePath) :: (colon, colonPath) :: (opening, opens) ::
        (innerPlaces ++ [(closing, closes)]) := by
    simp only [placesOf, childPlaces, Tree.inParentheses, List.nil_append, List.cons_append,
      List.append_nil]
    rfl
  have leaf : ∀ place ∈ innerPlaces, place.1 ∈ inner.leaves := by
    intro place member
    rw [← map_fst_placesOf (insidePath type.lead typePath)]
    exact List.mem_map_of_mem member
  refine ⟨_, _, spelled, rfl, isHead_name isFieldName _, ⟨?_, ?_, ?_⟩, ?_⟩
  · exact Nat.le_add_left 2 _
  · have mark {l : Leaf} {path : Path} (plain : l.isPlain = true) (kind : l.kind = .mark)
        (elsewhere : path.isIn .simpleLine = false) : IsSteady style (l, path) :=
      (Leaf.isCanonical_mark plain kind).isSteady elsewhere
    have inside : ∀ place ∈ innerPlaces, IsSteady style place := fun place member =>
      (innerCanonical _ (leaf place member)).isSteady
        (innerType.elsewhere type.lead typePath place member)
    simp only [List.forall_mem_cons, List.forall_mem_append]
    exact ⟨isSteady_ofWord _ _ rfl, mark rfl rfl rfl, mark rfl rfl rfl, inside, mark rfl rfl rfl,
      by simp⟩
  · have inside : ∀ place ∈ innerPlaces, commentMark ∉ place.1.lead := fun place member =>
      innerUncommented _ (leaf place member)
    simp only [List.tail_cons, List.forall_mem_cons, List.forall_mem_append]
    exact ⟨List.not_mem_nil, not_mem_lead uncommented, inside, List.not_mem_nil, by simp⟩
  · have close : hasSpaceBefore colon colonPath = false := rfl
    have spaced : hasSpaceBefore opening opens = true := rfl
    have closed : hasSpaceBefore closing closes = false := rfl
    have seenInside : innerPlaces.flatMap spacedShown = seen :=
      innerType.flatMap_spacedShown type.lead typePath
    have between : Text.ofString ": " = Text.ofString ":" ++ [CodePoint.space] := by decide
    rw [← text, rowText, List.flatMap_cons, List.flatMap_cons, List.flatMap_append, seenInside]
    simp only [spacedShown, close, spaced, closed, List.flatMap_cons, List.flatMap_nil]
    simp [opening, closing, colon, shown_ofWord, shown_ofMark, shown_hiddenMark, between]

end RecordGen.Source
