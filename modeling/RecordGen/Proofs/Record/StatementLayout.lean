import RecordGen.Proofs.Name.Inert
import RecordGen.Proofs.Record.ModuleTree
import RecordGen.Proofs.Source.ModuleLines

/-!
# The layout of imports and fields

An import and a field whose names are identifiers are laid out in one line each, as they are written.
Only a number that is not spelled as a layout spells it would be changed.
-/

namespace RecordGen.Declaration

open Source Source.Grammar

variable {options : RecordOptions} {lead : Text} {style : LineStyle} {groups : Bool}
  {field : RecordField} {type : FieldType}

theorem lineFeed_not_mem_of_points
    {t : Text}
    (points : ∀ c ∈ t, isWordPoint c = true) :
    CodePoint.lineFeed ∉ t := by
  intro member
  have point := points _ member
  revert point
  decide

/-! ## Annotations -/

/-- A reference that is no identifier is a number in its canonical spelling, where it is not quoted. -/
def IsSpelled (options : RecordOptions) (type : FieldType) : Prop :=
  ∀ className, type = .reference className → options.lateAnnotations = true →
    Unicode.isIdentifier className = false → numberSpelling className = className

theorem shown_valueLeaf (lead t : Text) : (valueLeaf lead t).shown = t := by
  unfold valueLeaf
  split <;> rfl

theorem kind_valueLeaf (lead t : Text) :
    (valueLeaf lead t).kind = .word ∨ (valueLeaf lead t).kind = .number := by
  unfold valueLeaf
  split
  · exact .inl rfl
  · exact .inr rfl

theorem isBare_of_ofUri
    {uri className : Text}
    (named : TypeName.ofUri uri = .ok className) :
    IsBare (FieldType.reference className).text := by
  have others : (Text.ofString " | None").all (fun c => !isQuoteMark c && c ≠ backslash) = true := by
    decide
  intro c member
  rcases List.mem_append.mp member with inName | behind
  · exact (TypeName.isInert_of_ofUri named).quote c inName
  · simpa using List.all_eq_true.mp others c behind

theorem isTypeTree_annotationTree
    (named : ∀ className, type = .reference className → ∃ uri, TypeName.ofUri uri = .ok className) :
    IsTypeTree (annotationTree options type) (annotationText options type) := by
  cases type with
  | builtin type => exact .single rfl
  | standard type => exact .qualified rfl (by cases type <;> rfl) rfl
  | reference className =>
      by_cases late : options.lateAnnotations = true
      · have alternatives := @IsTypeTree.alternatives (valueLeaf [CodePoint.space] className) noneWord
          [CodePoint.space] (kind_valueLeaf _ _) rfl
        have spelled : annotationText options (.reference className) =
            (valueLeaf [CodePoint.space] className).shown ++ Text.ofString " | " ++
              noneWord.shown := by
          have parts : Text.ofString " | None" = Text.ofString " | " ++ Text.ofString "None" := by
            decide
          simp [annotationText, late, FieldType.text, shown_valueLeaf, parts, noneWord, shown_ofWord]
        rw [annotationTree, if_pos late, spelled]
        exact alternatives
      · obtain ⟨uri, ofUri⟩ := named className rfl
        have nonempty : (FieldType.reference className).text ≠ [] := by
          simp [FieldType.text, ne_nil_of_ofUri ofUri]
        have single := @IsTypeTree.single (quotedReference className) (by
          simp [Leaf.isMultilineString, quotedReference, Literal.isMultiline,
            ofText_quotedText nonempty (isBare_of_ofUri ofUri)])
        rw [annotationTree, if_neg late, annotationText_quoted late]
        exact single

theorem isCanonical_valueLeaf
    {t : Text}
    (spelled : Unicode.isIdentifier t = false → numberSpelling t = t)
    (lead : Text) :
    (valueLeaf lead t).IsCanonical := by
  by_cases identifier : Unicode.isIdentifier t = true
  · rw [valueLeaf, if_pos identifier]
    exact Leaf.isCanonical_word rfl
  · rw [valueLeaf, if_neg identifier]
    exact ⟨rfl, fun _ => spelled (by simpa using identifier), by simp [Leaf.ofNumber]⟩

theorem isCanonical_quotedReference
    {uri className : Text}
    (named : TypeName.ofUri uri = .ok className) :
    (quotedReference className).IsCanonical := by
  have nonempty : (FieldType.reference className).text ≠ [] := by
    simp [FieldType.text, ne_nil_of_ofUri named]
  exact ⟨rfl, by simp [quotedReference],
    fun _ normalize => plainSpelling_quotedText nonempty (isBare_of_ofUri named)⟩

/-- The leaves of an annotation are laid out as they are. -/
theorem isCanonical_annotationTree
    (named : ∀ className, type = .reference className → ∃ uri, TypeName.ofUri uri = .ok className)
    (spelled : IsSpelled options type) :
    ∀ l ∈ (annotationTree options type).leaves, l.IsCanonical := by
  cases type with
  | builtin type => exact List.forall_mem_singleton.mpr (Leaf.isCanonical_word rfl)
  | standard type =>
      exact forall_mem_qualified.mpr
        ⟨Leaf.isCanonical_word rfl, Leaf.isCanonical_mark rfl rfl, Leaf.isCanonical_word rfl⟩
  | reference className =>
      by_cases late : options.lateAnnotations = true
      · rw [annotationTree, if_pos late]
        exact forall_mem_alternatives.mpr ⟨isCanonical_valueLeaf (spelled className rfl late) _,
          Leaf.isCanonical_mark rfl rfl, Leaf.isCanonical_word rfl⟩
      · obtain ⟨uri, ofUri⟩ := named className rfl
        rw [annotationTree, if_neg late]
        exact List.forall_mem_singleton.mpr (isCanonical_quotedReference ofUri)

/-- No comment stands in an annotation. -/
theorem commentMark_not_mem_annotationTree
    (type : FieldType) :
    ∀ l ∈ (annotationTree options type).leaves, commentMark ∉ l.lead := by
  have space : commentMark ∉ [CodePoint.space] := by decide
  cases type with
  | builtin type => exact List.forall_mem_singleton.mpr space
  | standard type =>
      exact forall_mem_qualified.mpr ⟨space, List.not_mem_nil, List.not_mem_nil⟩
  | reference className =>
      have value : commentMark ∉ (valueLeaf [CodePoint.space] className).lead := by
        unfold valueLeaf
        split <;> exact space
      by_cases late : options.lateAnnotations = true
      · rw [annotationTree, if_pos late]
        exact forall_mem_alternatives.mpr ⟨value, space, space⟩
      · rw [annotationTree, if_neg late]
        exact List.forall_mem_singleton.mpr space

/-! ## Fields -/

def fieldPlan (options : RecordOptions) (field : RecordField) : LinePlan :=
  ⟨1, 0, .plain, fieldMargin ++ (field.name ++ (Text.ofString ": " ++
    annotationText options field.type))⟩

theorem entry_fieldPlan (field : RecordField) :
    (fieldPlan options field).entry = fieldLine options field := by
  simp [LinePlan.entry, fieldPlan, fieldLine, fieldMargin]

theorem lineFeed_not_mem_annotationText
    (named : ∀ className, type = .reference className → ∃ uri, TypeName.ofUri uri = .ok className) :
    CodePoint.lineFeed ∉ annotationText options type := by
  cases type with
  | builtin type =>
      change CodePoint.lineFeed ∉ (FieldType.builtin type).text
      cases type <;> decide
  | standard type =>
      change CodePoint.lineFeed ∉ (FieldType.standard type).text
      cases type <;> decide
  | reference className =>
      obtain ⟨uri, ofUri⟩ := named className rfl
      have free : CodePoint.lineFeed ∉ (FieldType.reference className).text := fun member =>
        (free_of_ofUri ofUri _ member).2.2 rfl
      have quote : CodePoint.lineFeed ∉ Text.ofString "\"" := by decide
      simp only [annotationText]
      split
      · simp [free, quote]
      · exact free

theorem lineFeed_not_mem_fieldPlan
    (readable : IsReadable options field) :
    CodePoint.lineFeed ∉ (fieldPlan options field).text := by
  have name : CodePoint.lineFeed ∉ field.name :=
    lineFeed_not_mem_of_points (isWordPoint_of_isFieldName readable.name)
  have margin : CodePoint.lineFeed ∉ fieldMargin := by decide
  have gap : CodePoint.lineFeed ∉ Text.ofString ": " := by decide
  simp [fieldPlan, name, margin, gap, lineFeed_not_mem_annotationText readable.named]

/-- The statement of a field with the parentheses that a layout gives it. -/
def wrappedField (options : RecordOptions) (field : RecordField) : Tree :=
  wrappedLine (.ofWord fieldMargin field.name) (annotationTree options field.type)

theorem arranges_fieldTree
    (readable : IsReadable options field) :
    Arranges groups 6 (fieldTree options field) (wrappedField options field) := by
  have uncommented : commentMark ∉ fieldMargin := by decide
  exact arranges_typedLine (Bool.and_eq_true_iff.mp readable.name).1 uncommented
    (isTypeTree_annotationTree readable.named)

theorem introduces_fieldMargin :
    Introduces (LogicalLine.Follows style) 1 0 fieldMargin [] := by
  have none : leadComments false fieldMargin = [] := by decide
  refine ⟨by simp [none], by rw [none]; exact .nil, ?_⟩
  rw [none]
  decide

theorem isStatement_wrappedField
    (readable : IsReadable options field)
    (spelled : IsSpelled options field.type) :
    IsStatement (LogicalLine.Follows style) style 1 (wrappedField options field)
      [fieldPlan options field] :=
  isStatement_wrappedLine readable.name (isTypeTree_annotationTree readable.named)
    (isCanonical_annotationTree readable.named spelled)
    (commentMark_not_mem_annotationTree field.type) introduces_fieldMargin rfl
    (lineFeed_not_mem_fieldPlan readable)

/-! ## Imports -/

/-- The statement of an import with the parentheses that a layout gives it. -/
def wrappedImport (lead : Text) : List Text → Tree
  | [_, m] => importLine lead (spacedWord m)
  | [_, m, _, n] => wrappedImportLine lead (spacedWord m) (spacedWord n)
  | _ => .node .simpleLine []

/-- The statements of imports with these parentheses, the first one behind a lead. -/
def wrappedImports (lead : Text) : List (List Text) → List Tree
  | [] => []
  | words :: imports => wrappedImport lead words :: wrappedImports [] imports

/-- The lines of an import behind a lead in a layout. -/
def importPlan (lead : Text) (words : List Text) : LinePlan :=
  ⟨0, leadGap lead, .imports, Text.join [CodePoint.space] words⟩

/-- The lines of imports in a layout, the first one behind a lead. -/
def importPlans (lead : Text) : List (List Text) → List (List LinePlan)
  | [] => []
  | words :: imports => (leadPlans lead ++ [importPlan lead words]) :: importPlans [] imports

variable {words : List Text} {imports : List (List Text)}

theorem arranges_importTree
    (isImport : IsImport words)
    (noSwitch : HasNoSwitch lead) :
    Arranges groups 2 (importTree lead words) (wrappedImport lead words) := by
  cases isImport with
  | @module m plain => exact arranges_importLine lead (spacedWord m)
  | @name m n plain plain' =>
      have named : m ≠ .ofString "import" := by
        rintro rfl
        revert plain
        decide
      have noMark : (spacedWord n).kind ≠ .mark := by simp [spacedWord, Leaf.ofWord]
      exact arranges_importFromLine noSwitch named noMark

theorem arranges_importTrees
    (isImport : ∀ words ∈ imports, IsImport words)
    (noSwitch : HasNoSwitch lead) :
    List.Forall₂ (Arranges groups 2) (importTrees lead imports) (wrappedImports lead imports) := by
  induction imports generalizing lead with
  | nil => exact .nil
  | cons words imports inductionHypothesis =>
      obtain ⟨own, later⟩ := List.forall_mem_cons.mp isImport
      exact .cons (arranges_importTree own noSwitch)
        (inductionHypothesis later (hasNoSwitch_of_not_mem List.not_mem_nil))

theorem isStatement_wrappedImport
    (isImport : IsImport words)
    (tidy : IsTidy lead) :
    IsStatement (LogicalLine.Follows style) style 0 (wrappedImport lead words)
      (leadPlans lead ++ [importPlan lead words]) := by
  have free {word : Text} (plain : isPlainWord word = true) : CodePoint.lineFeed ∉ word :=
    lineFeed_not_mem_of_points (points_of_isPlainWord plain).2
  cases isImport with
  | module plain => exact isStatement_importLine (free plain) tidy.introduces
  | name plain plain' => exact isStatement_wrappedImportLine ⟨free plain, free plain'⟩ tidy.introduces

theorem isStatement_wrappedImports
    (isImport : ∀ words ∈ imports, IsImport words)
    (tidy : IsTidy lead) :
    List.Forall₂ (IsStatement (LogicalLine.Follows style) style 0) (wrappedImports lead imports)
      (importPlans lead imports) := by
  induction imports generalizing lead with
  | nil => exact .nil
  | cons words imports inductionHypothesis =>
      obtain ⟨own, later⟩ := List.forall_mem_cons.mp isImport
      exact .cons (isStatement_wrappedImport own tidy) (inductionHypothesis later isTidy_nil)

/-- The lines of imports make up their text, with the lead in front of it. -/
theorem flatMap_entry_importPlans
    (tidy : IsTidy lead)
    (imports : List (List Text)) :
    (importPlans lead imports).flatten.flatMap LinePlan.entry ++ leadBehind lead imports =
      lead ++ imports.flatMap wordLine := by
  induction imports generalizing lead with
  | nil => simp [importPlans, leadBehind]
  | cons words imports inductionHypothesis =>
      have later : leadBehind [] imports = [] := by simp [leadBehind]
      have others := inductionHypothesis isTidy_nil
      rw [later, List.append_nil, List.nil_append] at others
      have own : (leadPlans lead ++ [importPlan lead words]).flatMap LinePlan.entry =
          lead ++ wordLine words := by
        rw [List.flatMap_append, List.flatMap_singleton, LinePlan.entry, ← List.append_assoc]
        exact congrArg (· ++ wordLine words) tidy.written
      rw [importPlans, List.flatten_cons, List.flatMap_append, own, others]
      simp [leadBehind]

end RecordGen.Declaration
