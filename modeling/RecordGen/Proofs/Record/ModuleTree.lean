import RecordGen.Proofs.Record.Attributes

/-!
# The tree of a generated module

A module is code in one way only if the name of its class and the names of its fields are identifiers.
Every leaf of its text is then known, with what stands in front of it, and so is the tree that the
leaves are read as: a line for each import, and the class with one line for each field.
-/

namespace RecordGen

open Source Source.Grammar Source.Reader

/-! ## Values -/

namespace Source

variable {inLine : Bool} {c : CodePoint} {lead word rest : Text} {leaves : List Leaf}

/-- The leaf of a value: a word, or a number. -/
def valueLeaf (lead t : Text) : Leaf :=
  if Unicode.isIdentifier t then .ofWord lead t else .ofNumber lead t

theorem isNumeral_of_isValueText
    (value : isValueText word = true)
    (noWord : Unicode.isIdentifier word ≠ true) :
    isNumeral word = true := by
  have constants : ∀ t ∈ Leaf.constants, Unicode.isIdentifier t = true := by decide
  simp only [isValueText, Bool.or_eq_true] at value
  rcases value with (field | constant) | numeral
  · exact absurd (Bool.and_eq_true_iff.mp field).1 noWord
  · exact absurd (constants word (List.contains_iff_mem.mp constant)) noWord
  · exact numeral

theorem Scans.value
    (isLead : IsLead inLine lead)
    (nonempty : word ≠ [])
    (points : ∀ d ∈ word, isWordPoint d = true)
    (value : isValueText word = true)
    (stop : endsWord c = true)
    (outside : isNumeralPoint c = false)
    (scans : Scans inLine (lead ++ (word ++ c :: rest)) leaves) :
    ∃ others, leaves = valueLeaf lead word :: others ∧ Scans true (c :: rest) others := by
  by_cases identifier : Unicode.isIdentifier word = true
  · rw [valueLeaf, if_pos identifier]
    exact scans.identifier isLead points identifier stop
  · have numeral : numeral? word = some (word, []) := by
      simpa [isNumeral] using isNumeral_of_isValueText value identifier
    obtain ⟨n, done⟩ := scans.exists_succ
    obtain ⟨others, ⟨own, -⟩ | ⟨number, tail, found, rfl, behind⟩⟩ :=
      leaves_of_word isLead nonempty points stop outside done
    · exact absurd own identifier
    · rw [numeral] at found
      cases found
      rw [valueLeaf, if_neg identifier]
      exact ⟨others, rfl, n, behind⟩

end Source

namespace Declaration

variable {options : RecordOptions} {type : FieldType} {field : RecordField} {lead rest : Text}
  {leaves : List Leaf}

theorem isOperand_valueLeaf
    {uri className : Text}
    (named : TypeName.ofUri uri = .ok className) :
    (valueLeaf lead className).isOperand = true := by
  unfold valueLeaf
  split
  · exact isOperand_of_ofUri named lead
  · rfl

/-! ## Annotations -/

def annotationTree (options : RecordOptions) : FieldType → Tree
  | .builtin type => .leaf (.ofWord [CodePoint.space] type.name)
  | .standard type =>
    .node .power [.leaf (.ofWord [CodePoint.space] type.module),
      .node .trailer [.leaf (.ofMark [] "."), .leaf (.ofWord [] type.name)]]
  | .reference className =>
    if options.lateAnnotations then
      .node .bitOr [.leaf (valueLeaf [CodePoint.space] className), .leaf (bar [CodePoint.space]),
        .leaf noneWord]
    else .leaf (quotedReference className)

theorem readsAs_annotationTree
    (named : ∀ className, type = .reference className → ∃ uri, TypeName.ofUri uri = .ok className) :
    ReadsAs (annotationTree options type).leaves (annotationTree options type) := by
  cases type with
  | builtin type => exact readsAs_operand (isOperand_builtin type)
  | standard type =>
      obtain ⟨operand, name⟩ := isOperand_standard type
      exact readsAs_attribute operand rfl name
  | reference className =>
      obtain ⟨uri, ofUri⟩ := named className rfl
      by_cases late : options.lateAnnotations = true
      · rw [annotationTree, if_pos late]
        exact readsAs_alternatives (isOperand_valueLeaf ofUri) rfl
      · rw [annotationTree, if_neg late]
        exact readsAs_string rfl

theorem leaves_annotation
    (named : ∀ className, type = .reference className → ∃ uri, TypeName.ofUri uri = .ok className)
    (evaluable : IsEvaluable options type)
    (scans : Scans true (CodePoint.space :: annotationText options type ++
      CodePoint.lineFeed :: rest) leaves) :
    ∃ others, leaves = (annotationTree options type).leaves ++ .ending :: others ∧
      Scans false rest others := by
  cases type with
  | builtin type => exact leaves_builtin scans
  | standard type => exact leaves_standard scans
  | reference className =>
      obtain ⟨uri, ofUri⟩ := named className rfl
      by_cases late : options.lateAnnotations = true
      · have points : ∀ c ∈ className, isWordPoint c = true := fun c member =>
          CodePoint.isWordPoint_of_isNamePoint ((TypeName.points_of_ofUri ofUri).1 c member)
        rw [annotationText_late late, reference_text_append] at scans
        obtain ⟨_, rfl, behindName⟩ := scans.value isLead_space (ne_nil_of_ofUri ofUri) points
          (evaluable className rfl late) rfl rfl
        obtain ⟨others, rfl, further⟩ := leaves_alternative behindName
        exact ⟨others, by simp [annotationTree, late, Tree.leaves, Tree.allLeaves], further⟩
      · rw [annotationText_quoted late] at scans
        obtain ⟨others, rfl, further⟩ := leaves_quoted ofUri scans
        exact ⟨others, by simp [annotationTree, late, Tree.leaves], further⟩

/-! ## Fields -/

def fieldTree (options : RecordOptions) (field : RecordField) : Tree :=
  typedLine (.ofWord fieldMargin field.name) (annotationTree options field.type)

theorem leaves_typedLine
    {l : Leaf} {type : Tree} :
    (typedLine l type).leaves = l :: colon :: (type.leaves ++ [Leaf.ending]) := by
  simp [typedLine, Tree.leaves, Tree.allLeaves]

/-- A field whose name is an identifier and whose annotation is code. -/
structure IsReadable (options : RecordOptions) (field : RecordField) : Prop where
  name : isFieldName field.name = true
  named : ∀ className, field.type = .reference className → ∃ uri, TypeName.ofUri uri = .ok className
  evaluable : IsEvaluable options field.type

theorem leaves_fieldLine
    (readable : IsReadable options field)
    (scans : Scans false (fieldLine options field ++ rest) leaves) :
    ∃ others, leaves = (fieldTree options field).leaves ++ others ∧ Scans false rest others := by
  have gaps : fieldMargin.all isGap = true := by decide
  have isLead : IsLead false fieldMargin := isLead_gaps (List.all_eq_true.mp gaps)
  let typeText := annotationText options field.type
  have written : fieldLine options field ++ rest = fieldMargin ++ (field.name ++
      CodePoint.ofChar ':' :: (CodePoint.space :: typeText ++ CodePoint.lineFeed :: rest)) := by
    simp [fieldLine, Text.line, fieldMargin, typeText, List.append_assoc]
    rfl
  have found : leafAt? (CodePoint.ofChar ':' :: (CodePoint.space :: typeText ++
      CodePoint.lineFeed :: rest)) = some (⟨.mark, .ofString ":", [], false⟩,
        CodePoint.space :: typeText ++ CodePoint.lineFeed :: rest) := rfl
  rw [written] at scans
  obtain ⟨_, rfl, behindName⟩ := scans.identifier isLead (isWordPoint_of_isFieldName readable.name)
    (Bool.and_eq_true_iff.mp readable.name).1 rfl
  obtain ⟨_, rfl, behindColon⟩ := Scans.leaf isLead_nil rfl found rfl behindName
  obtain ⟨others, rfl, further⟩ := leaves_annotation readable.named readable.evaluable behindColon
  refine ⟨others, ?_, further⟩
  rw [fieldTree, leaves_typedLine]
  simp only [List.cons_append, List.append_assoc, List.nil_append]
  rfl

def fieldLeaves (options : RecordOptions) (fields : List RecordField) : List (List Leaf) :=
  fields.map fun field => (fieldTree options field).leaves

theorem leaves_fields
    {fields : List RecordField}
    (readable : ∀ field ∈ fields, IsReadable options field)
    (scans : Scans false (fields.flatMap (fieldLine options)) leaves) :
    leaves = (fieldLeaves options fields).flatten ++ [Leaf.last] := by
  induction fields generalizing leaves with
  | nil => exact scans.finish
  | cons field fields inductionHypothesis =>
      obtain ⟨own, later⟩ := List.forall_mem_cons.mp readable
      obtain ⟨others, rfl, further⟩ := leaves_fieldLine own scans
      rw [inductionHypothesis later further]
      simp [fieldLeaves]

theorem isLine_fieldTree
    (field : RecordField) :
    IsLine ⟨4, 4⟩ (fieldTree options field).leaves := by
  have inside : (annotationTree options field.type).leaves.all Leaf.inside = true := by
    cases field.type with
    | builtin type => rfl
    | standard type => rfl
    | reference className =>
        rw [annotationTree, valueLeaf]
        split_ifs <;> rfl
  rw [fieldTree, leaves_typedLine]
  refine ⟨_, colon :: (annotationTree options field.type).leaves, rfl, rfl, ?_⟩
  rw [List.all_cons, List.all_cons, inside]
  rfl

/-! ## Reading lines -/

variable {limit : Nat} {below : List Leaf}

/-- A line of leaves that is read as a tree, whatever follows. -/
structure IsLineOf (own : List Leaf) (t : Tree) : Prop where
  exists_first : ∃ first others, own = first :: others ∧ first.inside = true
  only : ∀ limit depth next,
    Only (readRule limit depth .statement) (own ++ next) (some (t, next))

theorem readsLines_append
    {front lines : List (List Leaf)} {trees ts : List Tree}
    (aligned : List.Forall₂ IsLineOf front trees)
    (reads : ReadsLines limit below lines (some ts)) :
    ReadsLines limit below (front ++ lines) (some (trees ++ ts)) := by
  induction aligned with
  | nil => exact reads
  | @cons own t front trees line _ inductionHypothesis =>
      obtain ⟨first, others, rfl, inside⟩ := line.exists_first
      have kinds := Leaf.kind_of_inside inside
      exact ReadsLines.cons (t := some t) kinds.2.1 kinds.2.2
        (fun depth => line.only limit depth _) inductionHypothesis

theorem isLineOf_fieldTree
    (readable : IsReadable options field) :
    IsLineOf (fieldTree options field).leaves (fieldTree options field) := by
  have name : (Leaf.ofWord fieldMargin field.name).isName = true := by
    obtain ⟨-, noKeyword⟩ := Bool.and_eq_true_iff.mp readable.name
    exact (isOperand_ofWord fieldMargin (by simpa using noKeyword)).2
  have reads := @readsAs_annotationTree options field.type readable.named
  rw [fieldTree, leaves_typedLine]
  refine ⟨⟨_, _, rfl, rfl⟩, fun limit depth next => ?_⟩
  have only := @only_typedLine _ next limit depth _ _ name reads
  simpa using only

theorem forall₂_fieldTrees
    {fields : List RecordField}
    (readable : ∀ field ∈ fields, IsReadable options field) :
    List.Forall₂ IsLineOf (fieldLeaves options fields) (fields.map (fieldTree options)) := by
  induction fields with
  | nil => exact .nil
  | cons field fields inductionHypothesis =>
      obtain ⟨own, later⟩ := List.forall_mem_cons.mp readable
      exact .cons (isLineOf_fieldTree own) (inductionHypothesis later)

/-- The statement of a line that imports; nothing for other words. -/
def importTree (lead : Text) : List Text → Tree
  | [_, m] => importLine lead (.ofWord [CodePoint.space] m)
  | [_, m, _, n] => importFromLine lead (.ofWord [CodePoint.space] m) (.ofWord [CodePoint.space] n)
  | _ => .node .simpleLine []

/-- The statements of lines that import, the first one behind a lead. -/
def importTrees (lead : Text) : List (List Text) → List Tree
  | [] => []
  | words :: imports => importTree lead words :: importTrees [] imports

theorem isLineOf_importTree
    {words : List Text}
    (isImport : IsImport words) :
    IsLineOf (wordLeaves lead words ++ [Leaf.ending]) (importTree lead words) := by
  cases isImport with
  | module plain =>
      exact ⟨⟨_, _, rfl, rfl⟩, fun limit depth next =>
        only_importLine (isName_of_isPlainWord _ plain)⟩
  | name plain plain' =>
      exact ⟨⟨_, _, rfl, rfl⟩, fun limit depth next =>
        only_importFromLine (isName_of_isPlainWord _ plain) (isName_of_isPlainWord _ plain')⟩

theorem forall₂_importTrees
    {imports : List (List Text)}
    (isImport : ∀ words ∈ imports, IsImport words) :
    List.Forall₂ IsLineOf (importLeaves lead imports) (importTrees lead imports) := by
  induction imports generalizing lead with
  | nil => exact .nil
  | cons words imports inductionHypothesis =>
      obtain ⟨own, later⟩ := List.forall_mem_cons.mp isImport
      exact .cons (isLineOf_importTree own) (inductionHypothesis later)

/-! ## Modules -/

variable {d : Declaration} {comment : Text} {tree : Tree}

/-- The statements in front of the class. -/
def frontTrees (comment : Text) (options : RecordOptions) (d : Declaration) : List Tree :=
  importTrees comment (lateImports options) ++
    importTrees (importLead comment options) d.importWords

def moduleTree (comment : Text) (options : RecordOptions) (d : Declaration) : Tree :=
  .node .text (frontTrees comment options d ++
    [classTree (classLead comment options d) decorator (.ofWord [CodePoint.space] d.className)
      (d.fields.map (fieldTree options)), .leaf Leaf.last])

/-- A record class whose names are identifiers, with annotations that are code. -/
structure HasNames (options : RecordOptions) (d : Declaration) : Prop where
  className : isFieldName d.className = true
  fields : ∀ field ∈ d.fields, IsReadable options field
  nonempty : d.fields ≠ []

/-- The leaves of a class and its decorator, up to its body. -/
def classLeaves (lead className : Text) : List Leaf :=
  .ofMark lead "@" :: decorator :: .ending :: classWord :: .ofWord [CodePoint.space] className ::
    colon :: [.ending]

theorem HasNames.eq_leaves
    (hasNames : d.HasNames options)
    (loose : IsLoose comment)
    (scans : Scans false (moduleCode comment options d) leaves) :
    leaves = (frontLeaves comment options d).flatten ++
      (classLeaves (classLead comment options d) d.className ++
        ((fieldLeaves options d.fields).flatten ++ [Leaf.last])) := by
  obtain ⟨_, rfl, behindImports⟩ := leaves_front loose scans
  obtain ⟨_, rfl, behindClass⟩ := leaves_classLines (isLoose_classLead loose).isLead_self behindImports
  obtain ⟨_, rfl, behindName⟩ := Scans.identifier isLead_space
    (isWordPoint_of_isFieldName hasNames.className) (Bool.and_eq_true_iff.mp hasNames.className).1
    rfl behindClass
  obtain ⟨_, rfl, behindLine⟩ := leaves_classEnd behindName
  rw [leaves_fields hasNames.fields behindLine]
  rfl

/-- A module that has a tree has this one. -/
theorem HasNames.eq_moduleTree
    (hasNames : d.HasNames options)
    (loose : IsLoose comment)
    (found : tree? (moduleCode comment options d) = some tree) :
    tree = moduleTree comment options d := by
  obtain ⟨flat, leaves, limit, scans, blocks, run⟩ :=
    exists_leaves_of_tree? getLast?_moduleCode found
  obtain rfl := hasNames.eq_leaves loose scans
  let name : Leaf := .ofWord [CodePoint.space] d.className
  have named : name.isName = true := by
    obtain ⟨-, noKeyword⟩ := Bool.and_eq_true_iff.mp hasNames.className
    exact (isOperand_ofWord _ (by simpa using noKeyword)).2
  -- The body of the class is the only block.
  have frontLines : ∀ own ∈ frontLeaves comment options d ++
      headLines (classLead comment options d) [name], IsLine .none own :=
    List.forall_mem_append.mpr
      ⟨fun own member => (isStatementLine_frontLeaves loose own member).isLine,
        isLine_headLines (isLoose_classLead loose)
          (.whole (Bool.and_eq_true_iff.mp hasNames.className).1)⟩
  have bodyLines : ∀ own ∈ fieldLeaves options d.fields, IsLine ⟨4, 4⟩ own := by
    intro own member
    obtain ⟨field, -, rfl⟩ := List.mem_map.mp member
    exact isLine_fieldTree field
  have someLines : fieldLeaves options d.fields ≠ [] := by
    simpa [fieldLeaves] using hasNames.nonempty
  have cut := blockLeaves?_body frontLines bodyLines (by decide) someLines
  rw [List.flatten_append, List.append_assoc] at cut
  obtain rfl := Option.some.inj (blocks.symm.trans cut)
  -- Its lines are read one by one, and so are those in front of it.
  have body := readsLines_append (forall₂_fieldTrees hasNames.fields)
    (@ReadsLines.nil limit (Leaf.closing :: [Leaf.last]))
  rw [List.append_nil, List.append_nil] at body
  have ownClass (depth : Nat) := @ReadsLines.only_class limit depth
    (classLead comment options d) [Leaf.last] name decorator _ _ body someLines (by decide) named
  have class_ : ReadsLines limit [Leaf.last]
      [classHead (classLead comment options d) decorator name ++
        ((fieldLeaves options d.fields).flatten ++ [Leaf.closing])]
      (some [classTree (classLead comment options d) decorator name
        (d.fields.map (fieldTree options))]) := by
    refine ReadsLines.cons (t := some _) (by simp [Leaf.ofMark]) (by simp [Leaf.ofMark])
      (fun depth => ?_) .nil
    simpa [classHead] using ownClass depth
  have imports : List.Forall₂ IsLineOf (frontLeaves comment options d)
      (frontTrees comment options d) :=
    List.rel_append (forall₂_importTrees fun _ => isImport_of_mem_lateImports)
      (forall₂_importTrees fun _ => isImport_of_mem_importWords)
  have only := @ReadsLines.only_wholeText limit limit _ _ (readsLines_append imports class_)
  have read : (wholeText (inside limit limit)).run
      ((frontLeaves comment options d ++
        [classHead (classLead comment options d) decorator name ++
          ((fieldLeaves options d.fields).flatten ++ [Leaf.closing])]).flatten ++ [Leaf.last]) =
      some (tree, []) := by
    simpa [classHead, headLines] using run
  rcases only with missing | whole
  · rw [missing] at read
    cases read
  · rw [whole] at read
    cases read
    simp [moduleTree, name]

end Declaration
end RecordGen
