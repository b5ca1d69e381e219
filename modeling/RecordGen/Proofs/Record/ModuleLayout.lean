import RecordGen.Proofs.Record.StatementLayout
import RecordGen.Source.Layout

/-!
# The layout of a generated module

A module whose names are identifiers is laid out line by line as it is: its lines are those of the
comment, the imports, the decorator, the class and the fields, with the empty lines that the module has
between them.
-/

namespace RecordGen.Declaration

open Source Source.Grammar

variable {options : RecordOptions} {d : Declaration} {comment lead : Text} {style : LineStyle}
  {groups : Bool} {words : List Text} {imports : List (List Text)}

/-! ## Comments -/

/-- Comments stand in front of the first one of some leaves alone. -/
def HeadedBy (lead : Text) (leaves : List Leaf) : Prop :=
  ∃ l others, leaves = l :: others ∧ l.lead = lead ∧ ∀ other ∈ others, commentMark ∉ other.lead

theorem HeadedBy.append
    {leaves others : List Leaf}
    (headed : HeadedBy lead leaves)
    (uncommented : ∀ other ∈ others, commentMark ∉ other.lead) :
    HeadedBy lead (leaves ++ others) := by
  obtain ⟨l, rest, rfl, own, later⟩ := headed
  exact ⟨l, rest ++ others, rfl, own, List.forall_mem_append.mpr ⟨later, uncommented⟩⟩

theorem HeadedBy.uncommented
    {leaves : List Leaf}
    (headed : HeadedBy lead leaves)
    (uncommented : commentMark ∉ lead) :
    ∀ l ∈ leaves, commentMark ∉ l.lead := by
  obtain ⟨l, others, rfl, rfl, later⟩ := headed
  exact List.forall_mem_cons.mpr ⟨uncommented, later⟩

theorem leaves_importTree
    (isImport : IsImport words) :
    (importTree lead words).leaves = wordLeaves lead words ++ [Leaf.ending] := by
  cases isImport <;> rfl

theorem uncommented_wordLeaves
    (words : List Text) :
    ∀ l ∈ wordLeaves [CodePoint.space] words, commentMark ∉ l.lead := by
  have space : commentMark ∉ [CodePoint.space] := by decide
  induction words with
  | nil => exact List.forall_mem_nil _
  | cons word words inductionHypothesis => exact List.forall_mem_cons.mpr ⟨space, inductionHypothesis⟩

theorem headedBy_importTree
    (isImport : IsImport words) :
    HeadedBy lead (importTree lead words).leaves := by
  rw [leaves_importTree isImport]
  have ending : ∀ l ∈ [Leaf.ending], commentMark ∉ l.lead :=
    List.forall_mem_singleton.mpr List.not_mem_nil
  cases isImport with
  | module => exact HeadedBy.append ⟨_, _, rfl, rfl, uncommented_wordLeaves _⟩ ending
  | name => exact HeadedBy.append ⟨_, _, rfl, rfl, uncommented_wordLeaves _⟩ ending

theorem uncommented_importTrees
    (isImport : ∀ words ∈ imports, IsImport words)
    (uncommented : commentMark ∉ lead) :
    ∀ l ∈ Tree.allLeaves (importTrees lead imports), commentMark ∉ l.lead := by
  induction imports generalizing lead with
  | nil => exact List.forall_mem_nil _
  | cons words imports inductionHypothesis =>
      obtain ⟨own, later⟩ := List.forall_mem_cons.mp isImport
      exact List.forall_mem_append.mpr ⟨(headedBy_importTree own).uncommented uncommented,
        inductionHypothesis later List.not_mem_nil⟩

theorem headedBy_importTrees
    (isImport : ∀ words ∈ imports, IsImport words)
    (nonempty : imports ≠ []) :
    HeadedBy lead (Tree.allLeaves (importTrees lead imports)) := by
  cases imports with
  | nil => exact absurd rfl nonempty
  | cons words imports =>
      obtain ⟨own, later⟩ := List.forall_mem_cons.mp isImport
      exact (headedBy_importTree own).append (uncommented_importTrees later List.not_mem_nil)

/-! ## The lines of a module -/

theorem importWords_ne_nil (d : Declaration) : d.importWords ≠ [] := by
  simp [importWords]

theorem classLead_eq (comment : Text) (options : RecordOptions) (d : Declaration) :
    classLead comment options d = [CodePoint.lineFeed, CodePoint.lineFeed] := by
  simp [classLead, leadBehind, importWords_ne_nil d]

theorem importLead_late
    (late : options.lateAnnotations = true)
    (comment : Text) :
    importLead comment options = [CodePoint.lineFeed] := by
  simp [importLead, leadBehind, lateImports, lateBlank, late]

theorem importLead_evaluated
    (evaluated : options.lateAnnotations ≠ true)
    (comment : Text) :
    importLead comment options = comment := by
  simp [importLead, leadBehind, lateImports, lateBlank, evaluated]

theorem isTidy_importLead
    (tidy : IsTidy comment) :
    IsTidy (importLead comment options) := by
  by_cases late : options.lateAnnotations = true
  · rw [importLead_late late]
    exact isTidy_lineFeed
  · rwa [importLead_evaluated late]

/-- The lines of the class in a layout. -/
def classPlans (options : RecordOptions) (d : Declaration) : List LinePlan :=
  ⟨0, 2, .decorates, Text.ofString "@" ++ Text.ofString "dataclass"⟩ ::
    ⟨0, 0, .opensClass, Text.ofString "class " ++ d.className ++ Text.ofString ":"⟩ ::
      d.fields.map (fieldPlan options)

/-- The lines of what stands in front of the class in a layout. -/
def frontPlans (comment : Text) (options : RecordOptions) (d : Declaration) : List (List LinePlan) :=
  importPlans comment (lateImports options) ++ importPlans (importLead comment options) d.importWords

/-- The lines of a module in a layout. -/
def modulePlans (comment : Text) (options : RecordOptions) (d : Declaration) : List LinePlan :=
  (frontPlans comment options d).flatten ++ classPlans options d

theorem flatMap_entry_classPlans (options : RecordOptions) (d : Declaration) :
    (classPlans options d).flatMap LinePlan.entry =
      [CodePoint.lineFeed, CodePoint.lineFeed] ++ (classLines d.className ++
        d.fields.flatMap (fieldLine options)) := by
  have fields : (d.fields.map (fieldPlan options)).flatMap LinePlan.entry =
      d.fields.flatMap (fieldLine options) := by
    rw [List.flatMap_map]
    exact congrArg (d.fields.flatMap ·) (funext entry_fieldPlan)
  have mark : Text.ofString "@" ++ Text.ofString "dataclass" = Text.ofString "@dataclass" := by decide
  rw [classPlans, List.flatMap_cons, List.flatMap_cons, fields, LinePlan.entry, LinePlan.entry, mark,
    classLines]
  simp [List.replicate]

/-- The lines of a module make up its text. -/
theorem flatMap_entry_modulePlans
    (tidy : IsTidy comment)
    (options : RecordOptions)
    (d : Declaration) :
    (modulePlans comment options d).flatMap LinePlan.entry = moduleCode comment options d := by
  have late := flatMap_entry_importPlans tidy (lateImports options)
  have tidyLead : IsTidy (importLead comment options) := isTidy_importLead tidy
  have needed := flatMap_entry_importPlans tidyLead d.importWords
  have last : leadBehind (importLead comment options) d.importWords = [] := by
    simp [leadBehind, importWords_ne_nil d]
  rw [last, List.append_nil] at needed
  have lead : importLead comment options = leadBehind comment (lateImports options) ++
    lateBlank options := rfl
  rw [modulePlans, frontPlans, List.flatten_append, List.flatMap_append, List.flatMap_append, needed,
    flatMap_entry_classPlans, moduleCode_eq, lead]
  simp only [← List.append_assoc, late]

/-- What can stand in front of a module: nothing, or a comment in front of empty lines. -/
inductive IsHeading (lead : Text) : Prop
  | none : lead = [] → IsHeading lead
  | comment {t : Text} :
      leadPlans lead = [⟨0, 0, .comment, t⟩] → CodePoint.lineFeed ∉ t → IsHeading lead

/-- An import with a tidy lead. -/
def IsImportPlan (plan : LinePlan) : Prop :=
  plan.role = .imports ∧ plan.depth = 0 ∧ plan.blanks ≤ 2 ∧ CodePoint.lineFeed ∉ plan.text

theorem isImportPlan_importPlan
    (isImport : IsImport words)
    (tidy : IsTidy lead) :
    IsImportPlan (importPlan lead words) := by
  exact ⟨rfl, rfl, tidy.few, lineFeed_not_mem_words fun word member =>
    lineFeed_not_mem_of_points (isImport.identifiers word member).2⟩

theorem isImportPlan_importPlans
    (isImport : ∀ words ∈ imports, IsImport words)
    (tidy : IsTidy lead)
    (bare : leadPlans lead = []) :
    ∀ plan ∈ (importPlans lead imports).flatten, IsImportPlan plan := by
  induction imports generalizing lead with
  | nil => exact List.forall_mem_nil _
  | cons words imports inductionHypothesis =>
      obtain ⟨own, later⟩ := List.forall_mem_cons.mp isImport
      rw [importPlans, bare, List.nil_append, List.flatten_cons, List.singleton_append]
      exact List.forall_mem_cons.mpr ⟨isImportPlan_importPlan own tidy,
        inductionHypothesis later isTidy_nil rfl⟩

/-- In front of the class stand the comment and imports, without empty lines before the comment. -/
theorem exists_frontPlans
    (tidy : IsTidy comment)
    (options : RecordOptions)
    (d : Declaration) :
    ∃ words plans, (frontPlans comment options d).flatten =
        leadPlans comment ++ importPlan comment words :: plans ∧
      ∀ plan ∈ importPlan comment words :: plans, IsImportPlan plan := by
  have needed : ∀ words ∈ d.importWords, IsImport words := fun _ => isImport_of_mem_importWords
  by_cases late : options.lateAnnotations = true
  · have own : IsImport lateWords := .name (by decide) (by decide)
    refine ⟨lateWords, (importPlans [CodePoint.lineFeed] d.importWords).flatten, ?_, ?_⟩
    · simp [frontPlans, importLead_late late, lateImports, late, importPlans]
    · exact List.forall_mem_cons.mpr ⟨isImportPlan_importPlan own tidy,
        isImportPlan_importPlans needed isTidy_lineFeed rfl⟩
  · obtain ⟨words, imports, spelled⟩ := List.exists_cons_of_ne_nil (importWords_ne_nil d)
    rw [spelled] at needed
    obtain ⟨own, others⟩ := List.forall_mem_cons.mp needed
    refine ⟨words, (importPlans [] imports).flatten, ?_, ?_⟩
    · simp [frontPlans, importLead_evaluated late, lateImports, late, importPlans, spelled]
    · exact List.forall_mem_cons.mpr ⟨isImportPlan_importPlan own tidy,
        isImportPlan_importPlans others isTidy_nil rfl⟩

theorem isChain_fieldPlans
    {above : LinePlan}
    (inClass : above.role = .opensClass ∨ above.role = .plain)
    (fields : List RecordField) :
    (above :: fields.map (fieldPlan options)).IsChain Succeeds := by
  induction fields generalizing above with
  | nil => exact .singleton above
  | cons field fields inductionHypothesis =>
      exact .cons_cons (.plain inClass rfl rfl rfl) (inductionHypothesis (.inr rfl))

theorem isChain_classPlans
    {above : LinePlan}
    (imports : above.role = .imports)
    (options : RecordOptions)
    (d : Declaration) :
    (above :: classPlans options d).IsChain Succeeds :=
  .cons_cons (.decorates imports rfl rfl rfl)
    (.cons_cons (.opensClass rfl rfl rfl rfl) (isChain_fieldPlans (.inl rfl) d.fields))

/-- The lines of a module come in order. -/
theorem isChain_imports
    {above : LinePlan} {plans behind : List LinePlan}
    (start : above.role = .comment ∨ above.role = .imports)
    (imports : ∀ plan ∈ plans, IsImportPlan plan)
    (some : plans ≠ [] ∨ above.role = .imports)
    (last : ∀ plan : LinePlan, plan.role = .imports → (plan :: behind).IsChain Succeeds) :
    (above :: (plans ++ behind)).IsChain Succeeds := by
  induction plans generalizing above with
  | nil => exact last above (some.resolve_left (by simp))
  | cons plan plans inductionHypothesis =>
      obtain ⟨⟨role, depth, few, -⟩, later⟩ := List.forall_mem_cons.mp imports
      exact .cons_cons (.imports start role depth few)
        (inductionHypothesis (.inr role) later (.inr role))

/-- The lines of a module start with a comment or an import, and come in order. -/
theorem exists_modulePlans
    (tidy : IsTidy comment)
    (heading : IsHeading comment)
    (options : RecordOptions)
    (d : Declaration) :
    ∃ first plans, modulePlans comment options d = first :: plans ∧ first.role ≠ .opensClass ∧
      first.blanks = 0 ∧ (first :: plans).IsChain Succeeds := by
  obtain ⟨words, others, spelled, isImport⟩ := exists_frontPlans tidy options d
  have last (plan : LinePlan) (role : plan.role = .imports) :=
    isChain_classPlans role options d
  rw [modulePlans, spelled]
  cases heading with
  | none empty =>
      subst empty
      exact ⟨_, _, rfl, by simp [importPlan], rfl, isChain_imports (.inr rfl)
        (List.forall_mem_cons.mp isImport).2 (.inr rfl) last⟩
  | comment remark free =>
      rw [remark]
      exact ⟨_, _, rfl, by simp, rfl, isChain_imports (.inl rfl) isImport
        (.inl (List.cons_ne_nil _ _)) last⟩

/-- No planned line has a line break in it. -/
theorem HasNames.lineFeed_not_mem_modulePlans
    (hasNames : d.HasNames options)
    (tidy : IsTidy comment)
    (heading : IsHeading comment) :
    ∀ plan ∈ modulePlans comment options d, CodePoint.lineFeed ∉ plan.text := by
  obtain ⟨words, others, spelled, isImport⟩ := exists_frontPlans tidy options d
  have remarks : ∀ plan ∈ leadPlans comment, CodePoint.lineFeed ∉ plan.text := by
    cases heading with
    | none empty =>
        subst empty
        exact List.forall_mem_nil _
    | comment remark free =>
        rw [remark]
        exact List.forall_mem_singleton.mpr free
  have fixed : CodePoint.lineFeed ∉ Text.ofString "@" ++ Text.ofString "dataclass" ∧
      CodePoint.lineFeed ∉ Text.ofString "class " ∧ CodePoint.lineFeed ∉ Text.ofString ":" := by
    decide
  have class_ : ∀ plan ∈ classPlans options d, CodePoint.lineFeed ∉ plan.text := by
    have className := lineFeed_not_mem_of_points (isWordPoint_of_isFieldName hasNames.className)
    refine List.forall_mem_cons.mpr ⟨fixed.1, List.forall_mem_cons.mpr ⟨?_, fun plan member => ?_⟩⟩
    · simp [fixed.2, className]
    · obtain ⟨field, inFields, rfl⟩ := List.mem_map.mp member
      exact lineFeed_not_mem_fieldPlan (hasNames.fields field inFields)
  rw [modulePlans, spelled]
  exact List.forall_mem_append.mpr ⟨List.forall_mem_append.mpr
    ⟨remarks, fun plan member => (isImport plan member).2.2.2⟩, class_⟩

/-! ## Layout -/

variable {laid : LayoutOptions}

/-- The tree of a module with the parentheses that a layout gives it. -/
def arrangedTree (comment : Text) (options : RecordOptions) (d : Declaration) : Tree :=
  .node .text (wrappedImports comment (lateImports options) ++
    wrappedImports (importLead comment options) d.importWords ++
      [classTree [CodePoint.lineFeed, CodePoint.lineFeed] decorator (spacedWord d.className)
        (d.fields.map (wrappedField options)), .leaf Leaf.last])

theorem HasNames.arranges_moduleTree
    (hasNames : d.HasNames options)
    (tidy : IsTidy comment) :
    (moduleTree comment options d).withOptionalParentheses groups =
      arrangedTree comment options d := by
  have fields : List.Forall₂ (Arranges groups 6) (d.fields.map (fieldTree options))
      (d.fields.map (wrappedField options)) := by
    rw [List.forall₂_map_left_iff, List.forall₂_map_right_iff]
    exact List.forall₂_same.mpr fun field member => arranges_fieldTree (hasNames.fields field member)
  have mono {ts ts' : List Tree} (aligned : List.Forall₂ (Arranges groups 2) ts ts') :
      List.Forall₂ (Arranges groups 15) ts ts' :=
    aligned.imp fun _ _ own => own.mono (by decide)
  have tidyLead : IsTidy (importLead comment options) := isTidy_importLead tidy
  have late : List.Forall₂ (Arranges groups 15) (importTrees comment (lateImports options)) _ :=
    mono (arranges_importTrees (fun _ => isImport_of_mem_lateImports) tidy.noSwitch)
  have needed : List.Forall₂ (Arranges groups 15)
      (importTrees (importLead comment options) d.importWords) _ :=
    mono (arranges_importTrees (fun _ => isImport_of_mem_importWords) tidyLead.noSwitch)
  have class_ : Arranges groups 15 (classTree (classLead comment options d) decorator
      (.ofWord [CodePoint.space] d.className) (d.fields.map (fieldTree options))) _ :=
    (arranges_classTree fields).mono (by decide)
  have whole := withOptionalParentheses_text (List.rel_append (List.rel_append late needed)
    (.cons class_ (.cons (arranges_leaf Leaf.last) .nil)))
  rw [moduleTree, frontTrees, whole, arrangedTree, classLead_eq]
  rfl

theorem uncommented_fieldTree
    (field : RecordField) :
    ∀ l ∈ (fieldTree options field).leaves, commentMark ∉ l.lead := by
  have margin : commentMark ∉ fieldMargin := by decide
  rw [fieldTree, leaves_typedLine]
  exact List.forall_mem_cons.mpr ⟨margin, List.forall_mem_cons.mpr ⟨List.not_mem_nil,
    List.forall_mem_append.mpr ⟨commentMark_not_mem_annotationTree field.type,
      List.forall_mem_singleton.mpr List.not_mem_nil⟩⟩⟩

theorem allLeaves_eq_flatMap (ts : List Tree) : Tree.allLeaves ts = ts.flatMap Tree.leaves := by
  induction ts with
  | nil => rfl
  | cons t ts inductionHypothesis => rw [Tree.allLeaves, inductionHypothesis, List.flatMap_cons]

theorem uncommented_classTree
    (options : RecordOptions)
    (d : Declaration) :
    ∀ l ∈ (classTree [CodePoint.lineFeed, CodePoint.lineFeed] decorator (spacedWord d.className)
      (d.fields.map (fieldTree options))).leaves, commentMark ∉ l.lead := by
  have leaves (lead : Text) (name : Leaf) (body : List Tree) :
      (classTree lead decorator name body).leaves =
        [.ofMark lead "@", decorator, .ending, classWord, name, colon, .ending, .opening] ++
          (body.flatMap Tree.leaves ++ [.closing]) := by
    simp [classTree, Tree.leaves, Tree.allLeaves, allLeaves_eq_flatMap]
  have lineFeeds : commentMark ∉ [CodePoint.lineFeed, CodePoint.lineFeed] := by decide
  rw [leaves]
  refine List.forall_mem_append.mpr ⟨?_, List.forall_mem_append.mpr ⟨fun l member => ?_,
    List.forall_mem_singleton.mpr List.not_mem_nil⟩⟩
  · simp only [List.forall_mem_cons]
    exact ⟨lineFeeds, List.not_mem_nil, List.not_mem_nil, List.not_mem_nil,
      commentMark_not_mem_spacedWord _, List.not_mem_nil, List.not_mem_nil, List.not_mem_nil, by simp⟩
  · obtain ⟨t, inBody, inTree⟩ := List.mem_flatMap.mp member
    obtain ⟨field, -, rfl⟩ := List.mem_map.mp inBody
    exact uncommented_fieldTree field l inTree

/-- Comments stand in front of the first leaf of a module alone. -/
theorem headedBy_moduleTree
    (comment : Text)
    (options : RecordOptions)
    (d : Declaration) :
    HeadedBy comment (moduleTree comment options d).leaves := by
  have needed : ∀ words ∈ d.importWords, IsImport words := fun _ => isImport_of_mem_importWords
  have front : HeadedBy comment (Tree.allLeaves (importTrees comment (lateImports options)) ++
      Tree.allLeaves (importTrees (importLead comment options) d.importWords)) := by
    by_cases late : options.lateAnnotations = true
    · have lineFeed : commentMark ∉ [CodePoint.lineFeed] := by decide
      rw [importLead_late late]
      refine HeadedBy.append (headedBy_importTrees (fun _ => isImport_of_mem_lateImports) ?_)
        (uncommented_importTrees needed lineFeed)
      simp [lateImports, late]
    · have none : importTrees comment (lateImports options) = [] := by
        simp [lateImports, late, importTrees]
      rw [importLead_evaluated late, none]
      exact headedBy_importTrees needed (importWords_ne_nil d)
  have last : ∀ l ∈ [Leaf.last], commentMark ∉ l.lead :=
    List.forall_mem_singleton.mpr List.not_mem_nil
  have whole := (front.append (uncommented_classTree options d)).append last
  have leaves : (moduleTree comment options d).leaves =
      Tree.allLeaves (importTrees comment (lateImports options)) ++
        Tree.allLeaves (importTrees (importLead comment options) d.importWords) ++
          (classTree [CodePoint.lineFeed, CodePoint.lineFeed] decorator (spacedWord d.className)
            (d.fields.map (fieldTree options))).leaves ++ [Leaf.last] := by
    rw [moduleTree, frontTrees, classLead_eq, Tree.leaves, allLeaves_eq_flatMap, List.flatMap_append,
      List.flatMap_append, allLeaves_eq_flatMap, allLeaves_eq_flatMap]
    simp [spacedWord, Tree.leaves]
  rw [leaves]
  exact whole

/-- The lines of a module are those that are planned. -/
theorem HasNames.follows_modulePlans
    (hasNames : d.HasNames options)
    (spelled : ∀ field ∈ d.fields, IsSpelled options field.type)
    (tidy : IsTidy comment) :
    List.Forall₂ (LogicalLine.Follows style) ((arrangedTree comment options d).logicalLines style)
      (modulePlans comment options d) := by
  have fields : List.Forall₂ (IsStatement (LogicalLine.Follows style) style 1)
      (d.fields.map (wrappedField options)) (d.fields.map fun field => [fieldPlan options field]) := by
    rw [List.forall₂_map_left_iff, List.forall₂_map_right_iff]
    exact List.forall₂_same.mpr fun field member =>
      isStatement_wrappedField (hasNames.fields field member) (spelled field member)
  have free : CodePoint.lineFeed ∉ Text.ofString "dataclass" := by decide
  have classFree := lineFeed_not_mem_of_points (isWordPoint_of_isFieldName hasNames.className)
  have noClass : (spacedWord d.className).isWord "class" = false :=
    isWord_of_isFieldName hasNames.className (by decide)
  have class_ (path : Path) : Draws (LogicalLine.Follows style) style 0 0
      (eventsOf path (classTree [CodePoint.lineFeed, CodePoint.lineFeed] decorator
        (spacedWord d.className) (d.fields.map (wrappedField options)))) (classPlans options d) := by
    have draws := draws_classTree (R := LogicalLine.Follows style) ⟨rfl, rfl⟩ noClass
      ⟨List.not_mem_nil, commentMark_not_mem_spacedWord _⟩ isTidy_lineFeeds.introduces
      (fun path line shown => shown.follows_decorator free)
      (fun block path line shown => shown.follows_class classFree) fields path
    have plans : (d.fields.map fun field => [fieldPlan options field]).flatten =
        d.fields.map (fieldPlan options) := by
      rw [← List.flatMap_def, List.map_eq_flatMap]
    rwa [plans] at draws
  have tidyLead : IsTidy (importLead comment options) := isTidy_importLead tidy
  have late : List.Forall₂ (IsStatement (LogicalLine.Follows style) style 0)
      (wrappedImports comment (lateImports options)) _ :=
    isStatement_wrappedImports (fun _ => isImport_of_mem_lateImports) tidy
  have needed : List.Forall₂ (IsStatement (LogicalLine.Follows style) style 0)
      (wrappedImports (importLead comment options) d.importWords) _ :=
    isStatement_wrappedImports (fun _ => isImport_of_mem_importWords) tidyLead
  exact rel_logicalLines (List.rel_append late needed) rfl class_

/-- A module whose names are identifiers is laid out as it is, if no line is too long. -/
theorem HasNames.layout_moduleTree
    (hasNames : d.HasNames options)
    (spelled : ∀ field ∈ d.fields, IsSpelled options field.type)
    (tidy : IsTidy comment)
    (heading : IsHeading comment)
    (fits : ∀ line ∈ (moduleCode comment options d).pieces CodePoint.lineFeed,
      ((Unicode.textWidth line : Nat) : Int) ≤ laid.lineLength) :
    (moduleTree comment options d).layout laid = moduleCode comment options d := by
  obtain ⟨l, others, leaves, lead, uncommented⟩ := headedBy_moduleTree comment options d
  have kept : (moduleTree comment options d).withKept = moduleTree comment options d :=
    withKept_eq_self leaves (lead ▸ tidy.noSwitch) uncommented
  obtain ⟨first, plans, spelledPlans, noClass, blanks, succeed⟩ :=
    exists_modulePlans tidy heading options d
  have written := flatMap_entry_modulePlans tidy options d
  have aligned : List.Forall₂ (LogicalLine.Follows (laid.style (moduleTree comment options d)))
      ((arrangedTree comment options d).logicalLines (laid.style (moduleTree comment options d)))
      (modulePlans comment options d) :=
    hasNames.follows_modulePlans spelled tidy
  rw [spelledPlans] at aligned
  -- A planned line is a line of the module, so it is short enough.
  have planFits : ∀ plan ∈ first :: plans, ((Unicode.textWidth plan.text : Nat) : Int) ≤
      (laid.style (moduleTree comment options d)).lineLength := by
    intro plan member
    rw [← spelledPlans] at member
    refine fits plan.text ?_
    rw [← written]
    exact LinePlan.mem_pieces member
      (hasNames.lineFeed_not_mem_modulePlans tidy heading plan member)
  rw [Tree.layout, Tree.lines, kept, hasNames.arranges_moduleTree tidy]
  cases lines : (arrangedTree comment options d).logicalLines
      (laid.style (moduleTree comment options d)) with
  | nil =>
      rw [lines] at aligned
      cases aligned
  | cons line lines =>
      rw [lines] at aligned
      rw [← written, spelledPlans]
      exact text_spacedLines aligned noClass blanks succeed planFits

end RecordGen.Declaration
