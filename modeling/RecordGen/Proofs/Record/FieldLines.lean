import RecordGen.Proofs.Name.Points
import RecordGen.Proofs.Source.Classes
import RecordGen.Proofs.Source.Lines
import RecordGen.Record.Declaration

/-!
# Field lines read back

The line that is written for a field is cut into leaves again and read as a statement. If the field
name is made of letters, digits and underscores, the line is the one statement that gives the name its
annotation, or no statement at all. Only `lambda` is read as something else.
-/

namespace RecordGen

open Source Source.Grammar Source.Reader

/-! ## Annotations -/

namespace Source

/-- Numbers and words in front of what starts no expression. -/
theorem IsSplit.juxtaposed
    {own behind : List Leaf}
    (split : IsSplit own)
    (nonempty : own ≠ [])
    (refused : behind.head?.any (fun l => l.kind = .word || l.startsExpression) = false) :
    Juxtaposed (own ++ behind) := by
  cases split with
  | nil => exact absurd rfl nonempty
  | @single l word =>
      refine ⟨⟨?_, ?_, fun _ => refused⟩, ?_⟩
      · exact unseen_of_kind (by simp [word])
      · simp [word]
      · simp [word]
  | @number l others number _ =>
      refine ⟨⟨?_, ?_, fun word => ?_⟩, ?_⟩
      · exact unseen_of_kind (by simp [number])
      · simp [number]
      · simp [number] at word
      · simp [number]

/-- The text stands for a value by itself: a name, a word for a value, or a number. -/
def isValueText (t : Text) : Bool := isFieldName t || Leaf.constants.contains t || isNumeral t

/-- The leaves of an annotation behind a colon, up to the end of the line: they are read as an
expression, which takes that the annotation fits, or something stands behind an operand that is
one. -/
inductive TypeLeaves (typeText : Text) (fits : Prop) : List Leaf → Prop
  | whole {l : Leaf} {others : List Leaf} {type : Tree} :
      startsType l = true → ReadsAs (l :: others) type →
        type.text = CodePoint.space :: typeText → fits → TypeLeaves typeText fits (l :: others)
  | broken {l : Leaf} {others : List Leaf} :
      l.isOperand = true → (∀ next, Juxtaposed (others ++ Leaf.ending :: next)) →
        TypeLeaves typeText fits (l :: others)

end Source

namespace Declaration

variable {options : RecordOptions} {rest : Text} {leaves : List Leaf}

theorem text_ofWord (lead word : Text) : (Tree.leaf (.ofWord lead word)).text = lead ++ word := by
  simp [Tree.text, Tree.leaves, Leaf.ofWord]

theorem isOperand_ofWord
    {word : Text}
    (lead : Text)
    (name : isKeyword word = false) :
    (Leaf.ofWord lead word).isOperand = true ∧ (Leaf.ofWord lead word).isName = true := by
  have own : (Leaf.ofWord lead word).isName = true := by
    simp [Leaf.isName, Leaf.ofWord, name]
  exact ⟨by simp [Leaf.isOperand, own], own⟩

/-- What the leaves of an annotation are followed by. -/
def ScansType (rest typeText : Text) (fits : Prop) (leaves : List Leaf) : Prop :=
  ∃ own others, leaves = own ++ Leaf.ending :: others ∧ Scans false rest others ∧
    own.all Leaf.inside = true ∧ TypeLeaves typeText fits own

theorem leaves_builtin
    {type : Builtin}
    (scans : Scans true (CodePoint.space :: type.name ++ CodePoint.lineFeed :: rest) leaves) :
    ∃ others, leaves = .ofWord [CodePoint.space] type.name :: .ending :: others ∧
      Scans false rest others := by
  have identifier : Unicode.isIdentifier type.name = true := by cases type <;> decide
  have points : type.name.all isWordPoint = true := by cases type <;> decide
  obtain ⟨others, rfl, behind⟩ := Scans.identifier isLead_space (List.all_eq_true.mp points)
    identifier rfl scans
  obtain ⟨last, rfl, further⟩ := behind.ending
  exact ⟨last, rfl, further⟩

theorem isOperand_builtin (type : Builtin) :
    (Leaf.ofWord [CodePoint.space] type.name).isOperand = true := by
  have ordinary : isKeyword type.name = false := by cases type <;> decide
  exact (isOperand_ofWord [CodePoint.space] ordinary).1

theorem scans_builtin
    {type : Builtin}
    (scans : Scans true (CodePoint.space :: type.name ++ CodePoint.lineFeed :: rest) leaves) :
    ScansType rest type.name True leaves := by
  obtain ⟨last, rfl, further⟩ := leaves_builtin scans
  have operand := isOperand_builtin type
  refine ⟨[.ofWord [CodePoint.space] type.name], last, rfl, further, rfl, ?_⟩
  exact .whole (by simp [startsType, operand]) (readsAs_operand operand) (text_ofWord _ _) trivial

theorem leafAt?_point (type : StandardType) :
    leafAt? (Text.ofString "." ++ (type.name ++ CodePoint.lineFeed :: rest)) =
      some (⟨.mark, .ofString ".", [], false⟩, type.name ++ CodePoint.lineFeed :: rest) := by
  cases type <;> rfl

theorem leaves_standard
    {type : StandardType}
    (scans : Scans true (CodePoint.space :: (FieldType.standard type).text ++
      CodePoint.lineFeed :: rest) leaves) :
    ∃ others, leaves = .ofWord [CodePoint.space] type.module :: .ofMark [] "." ::
        .ofWord [] type.name :: .ending :: others ∧
      Scans false rest others := by
  have identifiers : (Unicode.isIdentifier type.module && Unicode.isIdentifier type.name) = true := by
    cases type <;> decide
  have points : (type.module.all isWordPoint && type.name.all isWordPoint) = true := by
    cases type <;> decide
  rw [Bool.and_eq_true] at identifiers points
  have written : CodePoint.space :: (FieldType.standard type).text ++ CodePoint.lineFeed :: rest =
      [CodePoint.space] ++ (type.module ++ CodePoint.ofChar '.' ::
        (type.name ++ CodePoint.lineFeed :: rest)) := by
    simp [FieldType.text, List.append_assoc]
    rfl
  rw [written] at scans
  obtain ⟨_, rfl, behindModule⟩ := scans.identifier isLead_space (List.all_eq_true.mp points.1)
    identifiers.1 rfl
  obtain ⟨_, rfl, behindPoint⟩ :=
    Scans.leaf isLead_nil rfl (leafAt?_point type) rfl behindModule
  obtain ⟨_, rfl, behindName⟩ := Scans.identifier isLead_nil (List.all_eq_true.mp points.2)
    identifiers.2 rfl behindPoint
  obtain ⟨last, rfl, further⟩ := behindName.ending
  exact ⟨last, rfl, further⟩

theorem isOperand_standard (type : StandardType) :
    (Leaf.ofWord [CodePoint.space] type.module).isOperand = true ∧
      (Leaf.ofWord [] type.name).isName = true := by
  have ordinary : (isKeyword type.module || isKeyword type.name) = false := by
    cases type <;> decide
  rw [Bool.or_eq_false_iff] at ordinary
  exact ⟨(isOperand_ofWord [CodePoint.space] ordinary.1).1, (isOperand_ofWord [] ordinary.2).2⟩

theorem scans_standard
    {type : StandardType}
    (scans : Scans true (CodePoint.space :: (FieldType.standard type).text ++
      CodePoint.lineFeed :: rest) leaves) :
    ScansType rest (FieldType.standard type).text True leaves := by
  obtain ⟨last, rfl, further⟩ := leaves_standard scans
  obtain ⟨operand, name⟩ := isOperand_standard type
  refine ⟨[.ofWord [CodePoint.space] type.module, .ofMark [] ".", .ofWord [] type.name], last, rfl,
    further, rfl, ?_⟩
  refine .whole (by simp [startsType, operand]) (readsAs_attribute operand rfl name) ?_ trivial
  simp [Tree.text, Tree.leaves, Tree.allLeaves, Leaf.ofWord, Leaf.ofMark, FieldType.text]

/-- A type name is reserved only if it is a word for a value. -/
theorem mem_constants_of_ofUri
    {uri className : Text}
    (named : TypeName.ofUri uri = .ok className)
    (keyword : isKeyword className = true) :
    className ∈ Leaf.constants := by
  have values : ∀ word ∈ keywords, word.head?.any CodePoint.isCapitalPoint = true →
      word ∈ Leaf.constants := by
    decide
  exact values className (List.contains_iff_mem.mp keyword) (TypeName.points_of_ofUri named).2

theorem isOperand_of_ofUri
    {uri className : Text}
    (named : TypeName.ofUri uri = .ok className)
    (lead : Text) :
    (Leaf.ofWord lead className).isOperand = true := by
  cases keyword : isKeyword className with
  | false => exact (isOperand_ofWord lead keyword).1
  | true =>
      have member := mem_constants_of_ofUri named keyword
      simp only [Leaf.constants, List.map_cons, List.map_nil, List.mem_cons, List.not_mem_nil,
        or_false] at member
      rcases member with rfl | rfl | rfl <;> rfl

/-- A type name that is one word stands for a value. -/
theorem isValueText_of_ofUri
    {uri className : Text}
    (named : TypeName.ofUri uri = .ok className)
    (identifier : Unicode.isIdentifier className = true) :
    isValueText className = true := by
  cases keyword : isKeyword className with
  | false => simp [isValueText, isFieldName, identifier, keyword]
  | true =>
      have member := List.contains_iff_mem.mpr (mem_constants_of_ofUri named keyword)
      simp only [isValueText, member, Bool.or_true, Bool.true_or]

theorem ne_nil_of_ofUri
    {uri className : Text}
    (named : TypeName.ofUri uri = .ok className) :
    className ≠ [] := by
  rintro rfl
  exact absurd (TypeName.points_of_ofUri named).2 (by simp)

/-- The word behind the bar of a reference. -/
def noneWord : Leaf := .ofWord [CodePoint.space] (.ofString "None")

theorem leaves_alternative
    (scans : Scans true (CodePoint.space :: (Text.ofString "|" ++ CodePoint.space ::
      (Text.ofString "None" ++ CodePoint.lineFeed :: rest))) leaves) :
    ∃ others, leaves = bar [CodePoint.space] :: noneWord :: .ending :: others ∧
      Scans false rest others := by
  have found : leafAt? (Text.ofString "|" ++ CodePoint.space :: (Text.ofString "None" ++
      CodePoint.lineFeed :: rest)) = some (⟨.mark, .ofString "|", [], false⟩, CodePoint.space ::
        (Text.ofString "None" ++ CodePoint.lineFeed :: rest)) := rfl
  obtain ⟨_, rfl, behindBar⟩ := Scans.leaf isLead_space rfl found rfl scans
  obtain ⟨_, rfl, behindNone⟩ := Scans.identifier isLead_space
    (List.all_eq_true.mp (rfl : (Text.ofString "None").all isWordPoint = true)) (by decide) rfl
    behindBar
  obtain ⟨last, rfl, further⟩ := behindNone.ending
  exact ⟨last, rfl, further⟩

theorem reference_text_append (className : Text) :
    CodePoint.space :: (FieldType.reference className).text ++ CodePoint.lineFeed :: rest =
      [CodePoint.space] ++ (className ++ CodePoint.space :: (Text.ofString "|" ++
        CodePoint.space :: (Text.ofString "None" ++ CodePoint.lineFeed :: rest))) := by
  simp [FieldType.text, List.append_assoc]
  rfl

theorem scans_reference
    {uri className : Text}
    (named : TypeName.ofUri uri = .ok className)
    (scans : Scans true (CodePoint.space :: (FieldType.reference className).text ++
      CodePoint.lineFeed :: rest) leaves) :
    ScansType rest (FieldType.reference className).text (isValueText className = true) leaves := by
  have points : ∀ c ∈ className, isWordPoint c = true := fun c member =>
    CodePoint.isWordPoint_of_isNamePoint ((TypeName.points_of_ofUri named).1 c member)
  rw [reference_text_append] at scans
  obtain ⟨own, _, rfl, scan, behindName⟩ := scans.split isLead_space (ne_nil_of_ofUri named)
    points rfl rfl
  obtain ⟨last, rfl, further⟩ := leaves_alternative behindName
  have written : own ++ bar [CodePoint.space] :: noneWord :: Leaf.ending :: last =
      (own ++ [bar [CodePoint.space], noneWord]) ++ Leaf.ending :: last := by simp
  refine ⟨own ++ [bar [CodePoint.space], noneWord], last, written, further, ?_, ?_⟩
  · rw [List.all_append, scan.isSplit.inside]
    rfl
  · have single {l : Leaf} (operand : l.isOperand = true)
        (spelled : l.lead ++ l.text = CodePoint.space :: className)
        (isValue : isValueText className = true) :
        TypeLeaves (FieldType.reference className).text (isValueText className = true)
          [l, bar [CodePoint.space], noneWord] := by
      refine .whole (by simp [startsType, operand]) (readsAs_alternatives operand rfl) ?_ isValue
      simp only [Tree.text, Tree.leaves, Tree.allLeaves, List.append_nil, List.cons_append,
        List.nil_append, List.flatMap_cons, List.flatMap_nil, spelled, FieldType.text]
      rfl
    cases scan with
    | whole identifier =>
        exact single (isOperand_of_ofUri named _) rfl (isValueText_of_ofUri named identifier)
    | @number number others split whole =>
        have operand : (Leaf.ofNumber [CodePoint.space] number).isOperand = true := rfl
        -- Only a number that is the whole name can be annotated with; else something stands behind it.
        by_cases alone : others = []
        · obtain ⟨rfl, numeral⟩ := whole alone
          subst alone
          exact single operand rfl (by simp [isValueText, numeral])
        · refine .broken operand fun next => ?_
          change Juxtaposed ((others ++ [bar [CodePoint.space], noneWord]) ++ Leaf.ending :: next)
          rw [List.append_assoc]
          exact split.juxtaposed alone rfl

/-- The text of a reference ends no string in double quotes, and none of its points is escaped. -/
theorem free_of_ofUri
    {uri className : Text}
    (named : TypeName.ofUri uri = .ok className) :
    ∀ c ∈ (FieldType.reference className).text,
      c ≠ doubleQuote ∧ c ≠ backslash ∧ c ≠ CodePoint.lineFeed := by
  have others : (Text.ofString " | None").all (fun c =>
      c ≠ doubleQuote && c ≠ backslash && c ≠ CodePoint.lineFeed) = true := by decide
  intro c member
  rcases List.mem_append.mp member with inName | behind
  · have point := (TypeName.points_of_ofUri named).1 c inName
    refine ⟨?_, ?_, ?_⟩ <;> rintro rfl <;> revert point <;> decide
  · simpa [and_assoc] using List.all_eq_true.mp others c behind

def quotedReference (className : Text) : Leaf :=
  ⟨.string, quotedText (FieldType.reference className).text, [CodePoint.space], false⟩

theorem leaves_quoted
    {uri className : Text}
    (named : TypeName.ofUri uri = .ok className)
    (scans : Scans true (CodePoint.space :: quotedText (FieldType.reference className).text ++
      CodePoint.lineFeed :: rest) leaves) :
    ∃ others, leaves = quotedReference className :: .ending :: others ∧ Scans false rest others := by
  have nonempty : (FieldType.reference className).text ≠ [] := by
    simp [FieldType.text, ne_nil_of_ofUri named]
  obtain ⟨_, rfl, behindString⟩ := Scans.leaf isLead_space rfl
    (leafAt?_quoted nonempty (free_of_ofUri named)) rfl scans
  obtain ⟨last, rfl, further⟩ := behindString.ending
  exact ⟨last, rfl, further⟩

theorem scans_quoted
    {uri className : Text}
    (named : TypeName.ofUri uri = .ok className)
    (scans : Scans true (CodePoint.space :: quotedText (FieldType.reference className).text ++
      CodePoint.lineFeed :: rest) leaves) :
    ScansType rest (quotedText (FieldType.reference className).text) True leaves := by
  obtain ⟨last, rfl, further⟩ := leaves_quoted named scans
  refine ⟨[quotedReference className], last, rfl, further, rfl, ?_⟩
  exact .whole rfl (readsAs_string rfl) (by simp [Tree.text, Tree.leaves, quotedReference]) trivial

theorem ScansType.imp
    {typeText : Text} {fits fits' : Prop}
    (scans : ScansType rest typeText fits leaves)
    (implies : fits → fits') :
    ScansType rest typeText fits' leaves := by
  obtain ⟨own, others, rfl, further, inside, annotated⟩ := scans
  refine ⟨own, others, rfl, further, inside, ?_⟩
  cases annotated with
  | whole starts reads spelled fits => exact .whole starts reads spelled (implies fits)
  | broken operand juxtaposed => exact .broken operand juxtaposed

/-- A reference that is not quoted stands for a value. -/
def IsEvaluable (options : RecordOptions) (type : FieldType) : Prop :=
  ∀ className, type = .reference className → options.lateAnnotations = true →
    isValueText className = true

theorem annotationText_late
    {className : Text}
    (late : options.lateAnnotations = true) :
    annotationText options (.reference className) = (FieldType.reference className).text := by
  simp [annotationText, late]

theorem annotationText_quoted
    {className : Text}
    (quoted : options.lateAnnotations ≠ true) :
    annotationText options (.reference className) =
      quotedText (FieldType.reference className).text := by
  simp [annotationText, quoted, FieldType.isReference, quotedText]
  rfl

/-- A type of a field is written as leaves that are read as an expression, if at all. -/
theorem scans_type
    {type : FieldType}
    (named : ∀ className, type = .reference className → ∃ uri, TypeName.ofUri uri = .ok className)
    (scans : Scans true (CodePoint.space :: annotationText options type ++
      CodePoint.lineFeed :: rest) leaves) :
    ScansType rest (annotationText options type) (IsEvaluable options type) leaves := by
  cases type with
  | builtin b => exact (scans_builtin scans).imp fun _ _ same => by cases same
  | standard t => exact (scans_standard scans).imp fun _ _ same => by cases same
  | reference className =>
      obtain ⟨uri, ofUri⟩ := named className rfl
      by_cases late : options.lateAnnotations = true
      · rw [annotationText_late late] at scans ⊢
        exact (scans_reference ofUri scans).imp fun isValue _ same _ => by cases same; exact isValue
      · rw [annotationText_quoted late] at scans ⊢
        exact (scans_quoted ofUri scans).imp fun _ _ _ chosen => absurd chosen late

/-! ## Field lines -/

/-- What stands in front of a field. -/
def fieldMargin : Text := .ofString "    "

/-- The statement of a field: the name, which can be one, gets the annotation. -/
def IsFieldStatement (options : RecordOptions) (field : RecordField) (t : Tree) : Prop :=
  isFieldName field.name = true ∧ ∃ type, t = typedLine (.ofWord fieldMargin field.name) type ∧
    type.text = CodePoint.space :: annotationText options field.type

/-- No handler of a block starts with the leaves. -/
def Unhandled (leaves : List Leaf) : Prop :=
  leaves.head?.any (fun l => l.isWord "except" || l.isWord "finally") = false

/-- The leaves of the line of a field: they are read as its statement, or as none. -/
structure FieldLeaves (options : RecordOptions) (field : RecordField) (own : List Leaf) : Prop where
  isLine : IsLine ⟨4, 4⟩ own
  first : ∀ l, own.head? = some l → l.kind = .word → l.text = field.name
  exists_statement : ∃ line : Option Tree,
    (∀ t, line = some t → IsFieldStatement options field t ∧ IsEvaluable options field.type) ∧
    ∀ limit depth next, (field.name = .ofString "try" → Unhandled next) →
      Only (readRule limit depth .statement) (own ++ next) (line.map fun t => (t, next))

variable {field : RecordField}

theorem FieldLeaves.of_none
    {own : List Leaf}
    (isLine : IsLine ⟨4, 4⟩ own)
    (first : ∀ l, own.head? = some l → l.kind = .word → l.text = field.name)
    (missing : ∀ limit depth next, (field.name = .ofString "try" → Unhandled next) →
      (readRule limit depth .statement).run (own ++ next) = none) :
    FieldLeaves options field own :=
  ⟨isLine, first, none, by simp, fun limit depth next unhandled =>
    Or.inl (missing limit depth next unhandled)⟩

theorem fieldLeaves_word
    {typeLeaves : List Leaf}
    (identifier : Unicode.isIdentifier field.name = true)
    (noLambda : field.name ≠ .ofString "lambda")
    (inside : typeLeaves.all Leaf.inside = true)
    (annotated : TypeLeaves (annotationText options field.type) (IsEvaluable options field.type)
      typeLeaves) :
    FieldLeaves options field
      (.ofWord fieldMargin field.name :: colon :: (typeLeaves ++ [Leaf.ending])) := by
  have isLine : IsLine ⟨4, 4⟩
      (.ofWord fieldMargin field.name :: colon :: (typeLeaves ++ [Leaf.ending])) :=
    ⟨_, colon :: typeLeaves, rfl, rfl, by rw [List.all_cons, List.all_cons, inside]; rfl⟩
  have first (l : Leaf)
      (head : (Leaf.ofWord fieldMargin field.name :: colon :: (typeLeaves ++ [Leaf.ending])).head? =
        some l) (_ : l.kind = .word) : l.text = field.name := by
    obtain rfl := Option.some.inj head
    rfl
  -- A keyword starts a statement of its own, which the colon behind it ends too early.
  cases keyword : isKeyword field.name with
  | true =>
      refine .of_none isLine first fun limit depth next unhandled => ?_
      by_cases handles : field.name = .ofString "try"
      · -- The only word whose statement can go on behind the end of the line.
        rw [handles]
        cases annotated with
        | whole starts reads _ _ =>
            have missing := @run_statement_try _ _ next limit depth fieldMargin _ starts reads
              (unhandled handles)
            simpa using missing
        | broken operand juxtaposed =>
            have missing := @run_statement_try_juxtaposed _ _ limit depth fieldMargin operand
              (juxtaposed next)
            simpa using missing
      · exact run_statement_keyword keyword noLambda handles
  | false =>
      have name := (isOperand_ofWord fieldMargin keyword).2
      have fieldName : isFieldName field.name = true := by simp [isFieldName, identifier, keyword]
      cases annotated with
      | @whole l others type starts reads spelled evaluable =>
          refine ⟨isLine, first, some (typedLine (.ofWord fieldMargin field.name) type), ?_, ?_⟩
          · rintro t ⟨⟩
            exact ⟨⟨fieldName, type, rfl, spelled⟩, evaluable⟩
          · intro limit depth next _
            have only := @only_typedLine _ next limit depth _ type name reads
            simpa using only
      | broken operand juxtaposed =>
          refine .of_none isLine first fun limit depth next _ => ?_
          have missing := @run_typedLine_juxtaposed _ _ limit depth _ name operand (juxtaposed next)
          simpa using missing

theorem fieldLeaves_number
    {number : Text} {split typeLeaves : List Leaf}
    (isSplit : IsSplit split)
    (inside : typeLeaves.all Leaf.inside = true) :
    FieldLeaves options field
      (.ofNumber fieldMargin number :: split ++ colon :: (typeLeaves ++ [Leaf.ending])) := by
  have isLine : IsLine ⟨4, 4⟩
      (.ofNumber fieldMargin number :: split ++ colon :: (typeLeaves ++ [Leaf.ending])) := by
    refine ⟨.ofNumber fieldMargin number, split ++ colon :: typeLeaves, by simp, rfl, ?_⟩
    rw [List.all_cons, List.all_append, List.all_cons, inside, isSplit.inside]
    rfl
  refine .of_none isLine ?_ fun limit depth next _ => ?_
  · intro l head word
    obtain rfl := Option.some.inj head
    cases word
  · by_cases alone : split = []
    · subst alone
      exact run_statement_unnamed rfl rfl
    · have juxtaposed : Juxtaposed (split ++ colon :: (typeLeaves ++ [Leaf.ending] ++ next)) :=
        isSplit.juxtaposed alone rfl
      have missing := @run_statement_juxtaposed (.ofNumber fieldMargin number) _ limit depth rfl
        juxtaposed
      simpa using missing

theorem fieldLeaves_empty
    {typeLeaves : List Leaf}
    (inside : typeLeaves.all Leaf.inside = true) :
    FieldLeaves options field (.ofMark fieldMargin ":" :: (typeLeaves ++ [Leaf.ending])) := by
  have isLine : IsLine ⟨4, 4⟩ (.ofMark fieldMargin ":" :: (typeLeaves ++ [Leaf.ending])) :=
    ⟨_, typeLeaves, rfl, rfl, by rw [List.all_cons, inside]; rfl⟩
  refine .of_none isLine ?_ fun limit depth next _ => run_statement_refused rfl rfl rfl
  intro l head word
  obtain rfl := Option.some.inj head
  cases word

/-- The text of the name is made of points of words and of foreign points. -/
def isPlainName (name : Text) : Bool :=
  name.all (fun c => isWordPoint c || isForeign c) && name ≠ .ofString "lambda"

theorem isPlainName_ofText (t : Text) : isPlainName (Pascal.ofText t) = true := by
  have different : Pascal.ofText t ≠ .ofString "lambda" := Pascal.ofText_ne rfl (by decide) t
  have points : ∀ c ∈ Pascal.ofText t, isWordPoint c = true := fun c member =>
    CodePoint.isWordPoint_of_isNamePoint (Pascal.isNamePoint_of_mem_ofText member)
  simp only [isPlainName, Bool.and_eq_true, List.all_eq_true, Bool.or_eq_true]
  exact ⟨fun c member => Or.inl (points c member), by simpa using different⟩

/-- A plain name has only points of words, or a foreign point behind them. -/
theorem points_or_foreign
    {name : Text}
    (plain : name.all (fun c => isWordPoint c || isForeign c) = true) :
    (∀ c ∈ name, isWordPoint c = true) ∨
      ∃ word c more, name = word ++ c :: more ∧ (∀ d ∈ word, isWordPoint d = true) ∧
        isForeign c = true := by
  induction name with
  | nil => exact Or.inl (by simp)
  | cons c name inductionHypothesis =>
      obtain ⟨own, others⟩ := Bool.and_eq_true_iff.mp plain
      by_cases point : isWordPoint c = true
      · rcases inductionHypothesis others with points | ⟨word, d, more, rfl, points, foreign⟩
        · exact Or.inl (List.forall_mem_cons.mpr ⟨point, points⟩)
        · exact Or.inr ⟨c :: word, d, more, rfl, List.forall_mem_cons.mpr ⟨point, points⟩, foreign⟩
      · have foreign : isForeign c = true := by simpa [point] using own
        exact Or.inr ⟨[], c, name, rfl, by simp, foreign⟩

theorem scans_fieldLine
    (plain : isPlainName field.name = true)
    (named : ∀ className, field.type = .reference className →
      ∃ uri, TypeName.ofUri uri = .ok className)
    (scans : Scans false (fieldLine options field ++ rest) leaves) :
    ∃ own others, leaves = own ++ others ∧ Scans false rest others ∧
      FieldLeaves options field own := by
  obtain ⟨points, noLambda⟩ := Bool.and_eq_true_iff.mp plain
  have different : field.name ≠ .ofString "lambda" := by simpa using noLambda
  have gaps : fieldMargin.all isGap = true := by decide
  have isLead : IsLead false fieldMargin := isLead_gaps (List.all_eq_true.mp gaps)
  let typeText := annotationText options field.type
  have written : fieldLine options field ++ rest = fieldMargin ++ (field.name ++
      CodePoint.ofChar ':' :: (CodePoint.space :: typeText ++ CodePoint.lineFeed :: rest)) := by
    simp [fieldLine, Text.line, fieldMargin, typeText, List.append_assoc]
    rfl
  rw [written] at scans
  -- A name has only points of words, or the first other point is one that no leaf starts with.
  rcases points_or_foreign points with words | ⟨word, c, more, spelled, words, foreign⟩
  · have found : leafAt? (CodePoint.ofChar ':' :: (CodePoint.space :: typeText ++
        CodePoint.lineFeed :: rest)) = some (⟨.mark, .ofString ":", [], false⟩,
          CodePoint.space :: typeText ++ CodePoint.lineFeed :: rest) := rfl
    by_cases empty : field.name = []
    · rw [empty, List.nil_append] at scans
      obtain ⟨_, rfl, behindColon⟩ := Scans.leaf isLead rfl found rfl scans
      obtain ⟨own, others, rfl, further, inside, -⟩ := scans_type named behindColon
      refine ⟨.ofMark fieldMargin ":" :: (own ++ [Leaf.ending]), others, by simp; rfl, further, ?_⟩
      exact fieldLeaves_empty inside
    · obtain ⟨name, _, rfl, scan, behindName⟩ := scans.split isLead empty words rfl rfl
      obtain ⟨_, rfl, behindColon⟩ := Scans.leaf isLead_nil rfl found rfl behindName
      obtain ⟨own, others, rfl, further, inside, annotated⟩ := scans_type named behindColon
      refine ⟨name ++ colon :: (own ++ [Leaf.ending]), others, by simp; rfl, further, ?_⟩
      cases scan with
      | whole identifier => exact fieldLeaves_word identifier different inside annotated
      | number split _ => exact fieldLeaves_number split inside
  · rw [spelled, List.append_assoc, List.cons_append] at scans
    exact absurd scans (Scans.not_foreign isLead words foreign)

end Declaration
end RecordGen
