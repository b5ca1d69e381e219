import RecordGen.Proofs.Record.Declaration
import RecordGen.Proofs.Record.FieldLines

/-!
# The body of a generated class

A generated module is read back: its lines are cut into leaves, and the leaves are read as statements.
If this succeeds at all, the body of the class has one statement for each property and nothing else.
-/

namespace RecordGen

open Source Source.Grammar Source.Reader

namespace Declaration

variable {options : RecordOptions} {leaves rest : List Leaf} {limit : Nat}

/-! ## Bodies -/

theorem scans_fields
    {fields : List RecordField}
    (plain : ∀ field ∈ fields, isPlainName field.name = true)
    (named : ∀ field ∈ fields, ∀ className, field.type = .reference className →
      ∃ uri, TypeName.ofUri uri = .ok className)
    (scans : Scans false (fields.flatMap (fieldLine options)) leaves) :
    ∃ lines, leaves = lines.flatten ++ [Leaf.last] ∧
      List.Forall₂ (FieldLeaves options) fields lines := by
  induction fields generalizing leaves with
  | nil => exact ⟨[], scans.finish, .nil⟩
  | cons field fields inductionHypothesis =>
      obtain ⟨ownPlain, otherPlain⟩ := List.forall_mem_cons.mp plain
      obtain ⟨ownNamed, otherNamed⟩ := List.forall_mem_cons.mp named
      obtain ⟨own, others, rfl, further, isLine⟩ := scans_fieldLine ownPlain ownNamed scans
      obtain ⟨lines, rfl, aligned⟩ := inductionHypothesis otherPlain otherNamed further
      exact ⟨own :: lines, by simp, .cons isLine aligned⟩

/-- Behind a field that is named like a block with handlers no handler stands, because the names
ascend there. -/
theorem unhandled_of_ordered
    {field : RecordField} {fields : List RecordField} {lines : List (List Leaf)}
    (ordered : ∀ other ∈ fields, field.name = .ofString "try" → field.name ≤ other.name)
    (aligned : List.Forall₂ (FieldLeaves options) fields lines)
    (handles : field.name = .ofString "try") :
    Unhandled (lines.flatten ++ Leaf.closing :: rest) := by
  cases aligned with
  | nil => rfl
  | @cons other own fields lines isLine _ =>
      -- The words of the handlers come before the word of the block.
      have below : Text.ofString "try" ≤ other.name := 
        handles ▸ ordered other List.mem_cons_self handles
      obtain ⟨first, inner, spelled, -⟩ := isLine.isLine.exists_first
      have head : own.head? = some first := by rw [spelled]; rfl
      have different {s : String} (before : ¬ Text.ofString "try" ≤ Text.ofString s) :
          first.isWord s = false := by
        rw [Bool.eq_false_iff]
        intro word
        obtain ⟨kind, text⟩ := Leaf.eq_of_isWord word
        rw [← isLine.first first head kind, text] at below
        exact before below
      rw [Unhandled, spelled]
      have noExcept : first.isWord "except" = false := different (by
        rw [← Text.le_eq_true_iff]; decide)
      have noFinally : first.isWord "finally" = false := different (by
        rw [← Text.le_eq_true_iff]; decide)
      simp [noExcept, noFinally]

theorem readsLines_fields
    {fields : List RecordField} {lines : List (List Leaf)}
    (ordered : fields.Pairwise fun field other =>
      field.name = .ofString "try" → field.name ≤ other.name)
    (aligned : List.Forall₂ (FieldLeaves options) fields lines) :
    ∃ ts : Option (List Tree), ReadsLines limit (Leaf.closing :: rest) lines ts ∧
      ∀ body, ts = some body → List.Forall₂ (IsFieldStatement options) fields body ∧
        ∀ field ∈ fields, IsEvaluable options field.type := by
  induction aligned with
  | nil => exact ⟨some [], .nil, fun body same => by cases same; exact ⟨.nil, by simp⟩⟩
  | @cons field own fields lines isLine aligned inductionHypothesis =>
      obtain ⟨below, later⟩ := List.pairwise_cons.mp ordered
      obtain ⟨ts, reads, statements⟩ := inductionHypothesis later
      obtain ⟨line, isStatement, read⟩ := isLine.exists_statement
      obtain ⟨first, inner, spelled, -, inside⟩ := isLine.isLine.exists_first
      have kinds := Leaf.kind_of_inside (Bool.and_eq_true_iff.mp inside).1
      subst spelled
      refine ⟨do return (← line) :: (← ts), .cons kinds.2.1 kinds.2.2 (fun depth => ?_) reads, ?_⟩
      · exact read limit depth _ (unhandled_of_ordered below aligned)
      · intro body same
        obtain ⟨t, found, rest⟩ := Option.bind_eq_some_iff.mp same
        obtain ⟨ts', found', last⟩ := Option.bind_eq_some_iff.mp rest
        cases last
        obtain ⟨own, evaluable⟩ := isStatement t found
        obtain ⟨others, allEvaluable⟩ := statements ts' found'
        exact ⟨.cons own others, List.forall_mem_cons.mpr ⟨evaluable, allEvaluable⟩⟩

/-! ## Imports -/

/-- A word that names a module or something in it. -/
def isPlainWord (word : Text) : Bool := isFieldName word && word.all isWordPoint

/-- The words of a line that imports. -/
inductive IsImport : List Text → Prop
  | module {m : Text} : isPlainWord m = true → IsImport [.ofString "import", m]
  | name {m n : Text} :
      isPlainWord m = true → isPlainWord n = true →
        IsImport [.ofString "from", m, .ofString "import", n]

def wordLine (words : List Text) : Text := Text.line (Text.join [CodePoint.space] words)

variable {words : List Text} {lead : Text}

theorem points_of_isPlainWord
    {word : Text}
    (plain : isPlainWord word = true) :
    Unicode.isIdentifier word = true ∧ ∀ c ∈ word, isWordPoint c = true := by
  simp only [isPlainWord, isFieldName, Bool.and_eq_true, List.all_eq_true] at plain
  exact ⟨plain.1.1, plain.2⟩

theorem IsImport.identifiers
    (isImport : IsImport words) :
    ∀ word ∈ words, Unicode.isIdentifier word = true ∧ ∀ c ∈ word, isWordPoint c = true := by
  have fixed {s : String} (isFixed : (Unicode.isIdentifier (.ofString s) &&
      (Text.ofString s).all isWordPoint) = true) :
      Unicode.isIdentifier (.ofString s) = true ∧ ∀ c ∈ Text.ofString s, isWordPoint c = true := by
    simpa [List.all_eq_true] using isFixed
  cases isImport with
  | module plain => simpa using ⟨fixed (by decide), points_of_isPlainWord plain⟩
  | name plain plain' =>
      simpa using ⟨fixed (by decide), points_of_isPlainWord plain, fixed (by decide),
        points_of_isPlainWord plain'⟩

theorem isName_of_isPlainWord
    {word : Text}
    (lead : Text)
    (isPlain : isPlainWord word = true) :
    (Leaf.ofWord lead word).isName = true := by
  simp only [isPlainWord, isFieldName, Bool.and_eq_true, Bool.not_eq_true'] at isPlain
  exact (isOperand_ofWord lead isPlain.1.2).2

/-- A line of leaves behind no margin that is a statement. -/
structure IsStatementLine (own : List Leaf) : Prop where
  isLine : IsLine .none own
  exists_statement : ∃ t, ∀ limit depth next,
    Only (readRule limit depth .statement) (own ++ next) (some (t, next))

theorem IsImport.isStatementLine
    (isImport : IsImport words)
    (loose : IsLoose lead) :
    IsStatementLine (wordLeaves lead words ++ [Leaf.ending]) := by
  have unindented : marginOf .none 0 false lead = .none := by
    have margin := loose.margin []
    rwa [List.append_nil] at margin
  cases isImport with
  | @module m plain =>
      let own : Leaf := .ofWord [CodePoint.space] m
      refine ⟨⟨_, _, rfl, unindented, rfl⟩, importLine lead own, fun limit depth next => ?_⟩
      exact only_importLine (isName_of_isPlainWord _ plain)
  | @name m n plain plain' =>
      let path : Leaf := .ofWord [CodePoint.space] m
      let own : Leaf := .ofWord [CodePoint.space] n
      refine ⟨⟨_, _, rfl, unindented, rfl⟩, importFromLine lead path own, fun limit depth next => ?_⟩
      exact only_importFromLine (isName_of_isPlainWord _ plain) (isName_of_isPlainWord _ plain')

/-- The lines of leaves of lines that import, the first one behind a lead. -/
def importLeaves (lead : Text) : List (List Text) → List (List Leaf)
  | [] => []
  | words :: imports => (wordLeaves lead words ++ [Leaf.ending]) :: importLeaves [] imports

/-- What stands in front of the lines behind some that import: nothing, or what stood in front of
those if there are none. -/
def leadBehind (lead : Text) (imports : List (List Text)) : Text :=
  if imports.isEmpty then lead else []

theorem leaves_imports
    {imports : List (List Text)} {rest : Text}
    (isImport : ∀ words ∈ imports, IsImport words)
    (loose : IsLoose lead)
    (scans : Scans false (lead ++ (imports.flatMap wordLine ++ rest)) leaves) :
    ∃ others, leaves = (importLeaves lead imports).flatten ++ others ∧
      Scans false (leadBehind lead imports ++ rest) others := by
  induction imports generalizing lead leaves with
  | nil => exact ⟨leaves, rfl, scans⟩
  | cons words imports inductionHypothesis =>
      obtain ⟨own, later⟩ := List.forall_mem_cons.mp isImport
      have nonempty : words ≠ [] := by rintro rfl; cases own
      have written : lead ++ ((words :: imports).flatMap wordLine ++ rest) =
          lead ++ (Text.join [CodePoint.space] words ++ CodePoint.lineFeed ::
            (imports.flatMap wordLine ++ rest)) := by
        simp [wordLine, Text.line]
      rw [written] at scans
      obtain ⟨others, rfl, further⟩ := scans.words loose.isLead_self nonempty own.identifiers
      obtain ⟨last, rfl, behind⟩ := inductionHypothesis later .nil further
      refine ⟨last, by simp [importLeaves], ?_⟩
      simpa [leadBehind] using behind

theorem isLoose_leadBehind
    (loose : IsLoose lead)
    (imports : List (List Text)) :
    IsLoose (leadBehind lead imports) := by
  unfold leadBehind
  split
  · exact loose
  · exact .nil

theorem isStatementLine_importLeaves
    {imports : List (List Text)}
    (isImport : ∀ words ∈ imports, IsImport words)
    (loose : IsLoose lead) :
    ∀ own ∈ importLeaves lead imports, IsStatementLine own := by
  induction imports generalizing lead with
  | nil => simp [importLeaves]
  | cons words imports inductionHypothesis =>
      obtain ⟨own, later⟩ := List.forall_mem_cons.mp isImport
      exact List.forall_mem_cons.mpr ⟨own.isStatementLine loose, inductionHypothesis later .nil⟩

/-! ## Classes -/

/-- The name of the class decorator. -/
def decorator : Leaf := .ofWord [] (.ofString "dataclass")

/-- The lines of the decorator and of the class. -/
def headLines (lead : Text) (name : List Leaf) : List (List Leaf) :=
  [[.ofMark lead "@", decorator, Leaf.ending], classWord :: name ++ [colon, Leaf.ending]]

/-- The lines of a decorator and of a class, up to its body. -/
def classLines (className : Text) : Text :=
  Text.line (.ofString "@dataclass") ++
    Text.line (Text.ofString "class " ++ className ++ Text.ofString ":")

theorem leaves_classLines
    {className rest : Text}
    (isLead : IsLead false lead)
    (scans : Scans false (lead ++ (classLines className ++ rest)) leaves) :
    ∃ others, leaves = .ofMark lead "@" :: decorator :: .ending :: classWord :: others ∧
      Scans true (CodePoint.space ::
        (className ++ CodePoint.ofChar ':' :: CodePoint.lineFeed :: rest)) others := by
  let classLine := Text.line (Text.ofString "class " ++ className ++ Text.ofString ":") ++ rest
  have written : classLines className ++ rest =
      CodePoint.ofChar '@' :: (Text.ofString "dataclass" ++ CodePoint.lineFeed :: classLine) := by
    simp [classLines, classLine, Text.line]
    rfl
  have written' : classLine = Text.ofString "class" ++ CodePoint.space ::
      (className ++ CodePoint.ofChar ':' :: CodePoint.lineFeed :: rest) := by
    simp [classLine, Text.line]
    rfl
  rw [written] at scans
  have found : leafAt? (CodePoint.ofChar '@' :: (Text.ofString "dataclass" ++
      CodePoint.lineFeed :: classLine)) = some (⟨.mark, .ofString "@", [], false⟩,
        Text.ofString "dataclass" ++ CodePoint.lineFeed :: classLine) := rfl
  have decoratorWord : isPlainWord (.ofString "dataclass") = true := by decide
  have classIdentifier : Unicode.isIdentifier (.ofString "class") = true := by decide
  have classPoints : (Text.ofString "class").all isWordPoint = true := by decide
  obtain ⟨decoratorIdentifier, decoratorPoints⟩ := points_of_isPlainWord decoratorWord
  obtain ⟨_, rfl, behindMark⟩ := Scans.leaf isLead rfl found rfl scans
  obtain ⟨_, rfl, behindDecorator⟩ := Scans.identifier isLead_nil decoratorPoints
    decoratorIdentifier rfl behindMark
  obtain ⟨_, rfl, behindLine⟩ := behindDecorator.ending
  rw [written'] at behindLine
  obtain ⟨others, rfl, behindClass⟩ := Scans.identifier isLead_nil (List.all_eq_true.mp classPoints)
    classIdentifier rfl behindLine
  exact ⟨others, rfl, behindClass⟩

theorem leaves_classEnd
    {rest : Text}
    (scans : Scans true (CodePoint.ofChar ':' :: CodePoint.lineFeed :: rest) leaves) :
    ∃ others, leaves = colon :: .ending :: others ∧ Scans false rest others := by
  have found : leafAt? (CodePoint.ofChar ':' :: CodePoint.lineFeed :: rest) =
      some (⟨.mark, .ofString ":", [], false⟩, CodePoint.lineFeed :: rest) := rfl
  obtain ⟨_, rfl, behindColon⟩ := Scans.leaf isLead_nil rfl found rfl scans
  obtain ⟨others, rfl, further⟩ := behindColon.ending
  exact ⟨others, rfl, further⟩

theorem scans_class
    {className : Text} {rest : Text}
    (isLead : IsLead false lead)
    (named : ∃ uri, TypeName.ofUri uri = .ok className)
    (scans : Scans false (lead ++ (classLines className ++ rest)) leaves) :
    ∃ name others, leaves = (headLines lead name).flatten ++ others ∧
      IsScan [CodePoint.space] className name ∧ Scans false rest others := by
  obtain ⟨uri, ofUri⟩ := named
  have points : ∀ c ∈ className, isWordPoint c = true := fun c member =>
    CodePoint.isWordPoint_of_isNamePoint ((TypeName.points_of_ofUri ofUri).1 c member)
  obtain ⟨_, rfl, behindClass⟩ := leaves_classLines isLead scans
  obtain ⟨name, _, rfl, scan, behindName⟩ := Scans.split isLead_space (ne_nil_of_ofUri ofUri)
    points rfl rfl behindClass
  obtain ⟨others, rfl, further⟩ := leaves_classEnd behindName
  refine ⟨name, others, ?_, scan, further⟩
  simp only [headLines, List.flatten_cons, List.flatten_nil, List.append_nil, List.cons_append,
    List.nil_append, List.append_assoc]

/-! ## Modules -/

/-- The tree of a module whose last statement is the class of a declaration: its body has the
statement of each field, in order, and nothing else. -/
def HasClassBody (options : RecordOptions) (d : Declaration) (tree : Tree) : Prop :=
  ∃ front lead body, tree = .node .text
      (front ++ [classTree lead decorator (.ofWord [CodePoint.space] d.className) body,
        .leaf Leaf.last]) ∧
    List.Forall₂ (IsFieldStatement options) d.fields body

/-- The words of the line that switches the evaluation of annotations off. -/
def lateWords : List Text := ["from", "__future__", "import", "annotations"].map Text.ofString

/-- The words of the lines of the import block. -/
def importWords (d : Declaration) : List (List Text) :=
  d.modules.map (fun m => [Text.ofString "import", m]) ++
    [["from", "dataclasses", "import", "dataclass"].map Text.ofString]

theorem importBlock_eq (d : Declaration) : d.importBlock = d.importWords.flatMap wordLine := by
  rw [importBlock, importWords, List.flatMap_append, List.flatMap_map]
  rfl

theorem isImport_of_mem_importWords
    {d : Declaration} {words : List Text}
    (member : words ∈ d.importWords) :
    IsImport words := by
  rcases List.mem_append.mp member with ofModule | last
  · obtain ⟨m, needed, rfl⟩ := List.mem_map.mp ofModule
    obtain ⟨field, -, type⟩ := mem_modules_iff.mp needed
    refine .module ?_
    cases ofField : field.type with
    | standard t =>
        rw [ofField] at type
        obtain rfl := Option.some.inj type
        cases t <;> decide
    | builtin b => rw [ofField] at type; cases type
    | reference className => rw [ofField] at type; cases type
  · rw [List.mem_singleton.mp last]
    exact .name (by decide) (by decide)

variable {d : Declaration} {comment : Text}

/-- The text of a module: a comment, the line that switches the evaluation of annotations off, and the
declaration. -/
def moduleCode (comment : Text) (options : RecordOptions) (d : Declaration) : Text :=
  comment ++ ((if options.lateAnnotations then Text.line lateAnnotationLine ++ [CodePoint.lineFeed]
    else []) ++ d.text options)

/-- The lines that switch the evaluation of annotations off, if it is off. -/
def lateImports (options : RecordOptions) : List (List Text) :=
  if options.lateAnnotations then [lateWords] else []

/-- The empty line behind them. -/
def lateBlank (options : RecordOptions) : Text :=
  if options.lateAnnotations then [CodePoint.lineFeed] else []

theorem isImport_of_mem_lateImports
    {words : List Text}
    (member : words ∈ lateImports options) :
    IsImport words := by
  by_cases chosen : options.lateAnnotations = true
  · simp only [lateImports, chosen, ↓reduceIte, List.mem_singleton] at member
    rw [member]
    exact .name (by decide) (by decide)
  · simp [lateImports, chosen] at member

theorem isLoose_lateBlank : IsLoose (lateBlank options) := by
  unfold lateBlank
  split
  · exact IsLoose.nil.lineFeed
  · exact .nil

theorem moduleCode_eq
    (comment : Text)
    (options : RecordOptions)
    (d : Declaration) :
    moduleCode comment options d = comment ++ ((lateImports options).flatMap wordLine ++
      (lateBlank options ++ (d.importWords.flatMap wordLine ++
        ([CodePoint.lineFeed, CodePoint.lineFeed] ++ (classLines d.className ++
          d.fields.flatMap (fieldLine options)))))) := by
  have lateLine : Text.line lateAnnotationLine = wordLine lateWords := by decide
  have noLine : Text.line [] = [CodePoint.lineFeed] := rfl
  rw [moduleCode, text, importBlock_eq, lateLine, noLine]
  by_cases chosen : options.lateAnnotations = true
  · simp [lateImports, lateBlank, classLines, chosen]
  · simp [lateImports, lateBlank, classLines, chosen]

/-- What stands in front of the import block. -/
def importLead (comment : Text) (options : RecordOptions) : Text :=
  leadBehind comment (lateImports options) ++ lateBlank options

/-- What stands in front of the class. -/
def classLead (comment : Text) (options : RecordOptions) (d : Declaration) : Text :=
  leadBehind (importLead comment options) d.importWords ++ [CodePoint.lineFeed, CodePoint.lineFeed]

theorem isLoose_importLead
    (loose : IsLoose comment) :
    IsLoose (importLead comment options) :=
  (isLoose_leadBehind loose _).append isLoose_lateBlank

theorem isLoose_classLead
    (loose : IsLoose comment) :
    IsLoose (classLead comment options d) :=
  (isLoose_leadBehind (isLoose_importLead loose) _).append IsLoose.nil.lineFeed.lineFeed

/-- The lines of leaves in front of the class. -/
def frontLeaves (comment : Text) (options : RecordOptions) (d : Declaration) : List (List Leaf) :=
  importLeaves comment (lateImports options) ++ importLeaves (importLead comment options) d.importWords

theorem isStatementLine_frontLeaves
    (loose : IsLoose comment) :
    ∀ own ∈ frontLeaves comment options d, IsStatementLine own :=
  List.forall_mem_append.mpr
    ⟨isStatementLine_importLeaves (fun _ => isImport_of_mem_lateImports) loose,
      isStatementLine_importLeaves (fun _ => isImport_of_mem_importWords) (isLoose_importLead loose)⟩

theorem leaves_front
    (loose : IsLoose comment)
    (scans : Scans false (moduleCode comment options d) leaves) :
    ∃ others, leaves = (frontLeaves comment options d).flatten ++ others ∧
      Scans false (classLead comment options d ++ (classLines d.className ++
        d.fields.flatMap (fieldLine options))) others := by
  rw [moduleCode_eq] at scans
  obtain ⟨_, rfl, behindLate⟩ :=
    leaves_imports (fun _ => isImport_of_mem_lateImports) loose scans
  rw [← List.append_assoc] at behindLate
  obtain ⟨others, rfl, behindImports⟩ :=
    leaves_imports (fun _ => isImport_of_mem_importWords) (isLoose_importLead loose) behindLate
  rw [← List.append_assoc] at behindImports
  exact ⟨others, by simp [frontLeaves, importLead], behindImports⟩

theorem scans_module
    (loose : IsLoose comment)
    (named : ∃ uri, TypeName.ofUri uri = .ok d.className)
    (plain : ∀ field ∈ d.fields, isPlainName field.name = true)
    (referred : ∀ field ∈ d.fields, ∀ className, field.type = .reference className →
      ∃ uri, TypeName.ofUri uri = .ok className)
    (scans : Scans false (moduleCode comment options d) leaves) :
    ∃ (front : List (List Leaf)) (lead : Text) (name : List Leaf) (lines : List (List Leaf)),
      leaves = front.flatten ++ ((headLines lead name).flatten ++
        (lines.flatten ++ [Leaf.last])) ∧
      (∀ own ∈ front, IsStatementLine own) ∧ IsLoose lead ∧
      IsScan [CodePoint.space] d.className name ∧
      List.Forall₂ (FieldLeaves options) d.fields lines := by
  have classLoose := @isLoose_classLead options d comment loose
  obtain ⟨_, rfl, behindImports⟩ := leaves_front loose scans
  obtain ⟨name, _, rfl, scan, behindClass⟩ := scans_class classLoose.isLead_self named behindImports
  obtain ⟨lines, rfl, aligned⟩ := scans_fields plain referred behindClass
  exact ⟨_, _, name, lines, rfl, isStatementLine_frontLeaves loose, classLoose, scan, aligned⟩

end Declaration
end RecordGen
