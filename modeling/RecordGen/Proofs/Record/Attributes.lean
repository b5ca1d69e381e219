import RecordGen.Proofs.Record.References
import RecordGen.Proofs.Text.NormalForm

/-!
# Fields of a generated class

Whether the properties of a schema keep fields of their own in the class that is generated for it. The
names of fields are compared as they are written, so two of them are never written alike. The compiler
compares more: it takes identifiers in their normal form, and puts the name of the class in front of
names that are private to it. Names that this leaves as they are stay apart.
-/

namespace RecordGen

open Source Unicode

/-! ## Attributes -/

/-- The name is private to the class that uses it. -/
def isPrivateName (name : Text) : Bool :=
  (Text.ofString "__").isPrefixOf name && !(Text.ofString "__").isSuffixOf name

/-- What the compiler puts in front of the names that are private to a class. A class that is named by
underscores has no private names. -/
def privatePrefix (className : Text) : Text :=
  match (normalForm className).dropWhile (· = CodePoint.ofChar '_') with
  | [] => []
  | owner => CodePoint.ofChar '_' :: owner

/-- The attribute that an identifier in the body of a class stands for. -/
def attributeName (className name : Text) : Text :=
  if isPrivateName (normalForm name) then privatePrefix className ++ normalForm name
  else normalForm name

variable {className : Text} {names : List Text}

/-- Distinct names stay distinct attributes if they are in normal form and none is what the compiler
makes of another. -/
theorem nodup_map_attributeName
    (distinct : names.Nodup)
    (normal : ∀ name ∈ names, normalForm name = name)
    (apart : ∀ name ∈ names, ∀ other ∈ names, name ≠ other → attributeName className name ≠ other) :
    (names.map (attributeName className)).Nodup := by
  have known : ∀ name ∈ names, attributeName className name = name ∨
      attributeName className name = privatePrefix className ++ name := by
    intro name member
    unfold attributeName
    rw [normal name member]
    split
    · exact Or.inr rfl
    · exact Or.inl rfl
  refine distinct.map_on fun name member other inside same => ?_
  by_contra different
  rcases known name member with unchanged | mangled
  · exact apart other inside name member (Ne.symm different) (same.symm.trans unchanged)
  · rcases known other inside with unchanged | mangled'
    · exact apart name member other inside different (same.trans unchanged)
    · -- Both have the prefix of the class, so it can be taken off.
      rw [mangled, mangled'] at same
      exact different (List.append_cancel_left same)

/-! ## Field names -/

theorem isWordPoint_of_isIdentifierPoint
    {c : CodePoint}
    (point : isIdentifierStart c = true ∨ isIdentifierContinue c = true) :
    isWordPoint c = true := by
  have known : ((List.range 0x80).all fun n => isWordPoint (CodePoint.ofNat n) ||
      !(isIdentifierStart (CodePoint.ofNat n) || isIdentifierContinue (CodePoint.ofNat n))) = true := by
    decide +kernel
  by_cases ascii : c.val < 0x80
  · have own := List.all_eq_true.mp known c.val (List.mem_range.mpr ascii)
    have same : CodePoint.ofNat c.val = c := by simp [CodePoint.ofNat]
    rw [same] at own
    rcases point with start | continues
    · simpa [start] using own
    · simpa [continues] using own
  · simp [isWordPoint, CodePoint.isAscii, ascii]

theorem isWordPoint_of_isFieldName
    {name : Text}
    (field : isFieldName name = true) :
    ∀ c ∈ name, isWordPoint c = true := by
  obtain ⟨identifier, -⟩ := Bool.and_eq_true_iff.mp field
  cases name with
  | nil => cases identifier
  | cons c rest =>
      obtain ⟨start, continues⟩ := Bool.and_eq_true_iff.mp identifier
      refine List.forall_mem_cons.mpr ⟨isWordPoint_of_isIdentifierPoint (Or.inl start), ?_⟩
      exact fun d member =>
        isWordPoint_of_isIdentifierPoint (Or.inr (List.all_eq_true.mp continues d member))

/-- An identifier that is no keyword is a plain name. -/
theorem isPlainName_of_isFieldName
    {name : Text}
    (field : isFieldName name = true) :
    Declaration.isPlainName name = true := by
  obtain ⟨-, noKeyword⟩ := Bool.and_eq_true_iff.mp field
  have different : name ≠ .ofString "lambda" := by
    rintro rfl
    exact absurd noKeyword (by decide)
  simp only [Declaration.isPlainName, Bool.and_eq_true, List.all_eq_true, Bool.or_eq_true]
  exact ⟨fun c member => Or.inl (isWordPoint_of_isFieldName field c member), by simpa using different⟩

namespace Declaration

variable {options : RecordOptions} {schema : Schema} {p q : Text × Schema}

/-- The failure tells of two properties with one field name, the lesser one first. -/
def ReportsDuplicate (options : RecordOptions) (schema : Schema) (failure : Failure) : Prop :=
  ∃ first ∈ schema.properties, ∃ second ∈ schema.properties, first.1 < second.1 ∧
    fieldName options first.1 = fieldName options second.1 ∧
      failure = .generator (.duplicateField (fieldName options second.1) first.1 second.1)

/-- Two properties with one field name are reported, unless something else is wrong with the schema. -/
theorem exists_duplicate_of_same
    (distinctNames : (schema.properties.map Prod.fst).Nodup)
    (left : p ∈ schema.properties)
    (right : q ∈ schema.properties)
    (different : p.1 ≠ q.1)
    (same : fieldName options p.1 = fieldName options q.1) :
    ∃ failure, ofSchema options schema = .error failure ∧
      ((∃ className, TypeName.ofUri schema.id = .ok className) →
        (∀ r ∈ schema.properties, ∃ type, resolve r.2.types r.2.format r.2.ref = .ok type) →
          ReportsDuplicate options schema failure) := by
  cases outcome : ofSchema options schema with
  | ok d =>
      have declares := exists_ofSchema_iff.mp ⟨d, outcome⟩
      obtain rfl : p = q := List.inj_on_of_nodup_map declares.distinct left right same
      exact absurd rfl different
  | error failure =>
      refine ⟨failure, rfl, fun named resolved => ?_⟩
      obtain ⟨error, rfl, fault⟩ := (ofSchema_eq_error_iff distinctNames).mp outcome
      -- Where the class and all fields get their names and types, only a taken name is left.
      cases fault with
      | noProperties empty =>
          rw [empty] at left
          cases left
      | identifier _ failed =>
          obtain ⟨className, own⟩ := named
          rw [failed] at own
          cases own
      | property _ least =>
          obtain ⟨second, member, fault, -⟩ := least
          obtain ⟨type, own⟩ := resolved second member
          cases fault with
          | unsupported failed =>
              rw [failed] at own
              cases own
          | reference failed =>
              rw [failed] at own
              cases own
          | taken _ inside before taken =>
              exact ⟨_, inside, second, member, before, taken, rfl⟩

end Declaration

/-! ## Emission -/

namespace Settings

variable {s : Settings} {tools : Formatter.Toolbox} {commandLine : Text} {schema : Schema}
  {options : FormatterSettings}

/-- The names of the fields of a schema, in the order of its properties. -/
def fieldNames (s : Settings) (schema : Schema) : List Text :=
  schema.properties.map fun p => Declaration.fieldName s.recordOptions p.1

theorem perm_fieldNames
    {d : Declaration}
    (declared : Declaration.ofSchema s.recordOptions schema = .ok d) :
    (d.fields.map RecordField.name).Perm (s.fieldNames schema) := by
  obtain ⟨-, -, aligned, -⟩ := Declaration.ofSchema_eq_ok_iff.mp declared
  rw [Declaration.map_name_eq_of_fields aligned]
  exact (Declaration.sortedProperties_perm schema).map _

/-- A failure of the module is the failure of its emission. -/
theorem emit_eq_error_of_ofSchema
    {failure : Failure}
    (identified : schema.id ≠ [])
    (failed : Declaration.ofSchema s.recordOptions schema = .error failure) :
    s.emit tools commandLine schema = .error failure := by
  have nonempty : schema.id.isEmpty = false := by simpa using identified
  have module : s.moduleText commandLine schema = .error failure := by
    rw [moduleText, recordText, failed]
    rfl
  rw [emit, nonempty, module]
  rfl

/-- No two properties are given fields that are written alike, and two that would be are reported. If
text is emitted and all field names are identifiers, the class has one annotated statement for each
property. Its fields are then distinct to the compiler, if all names are in normal form and none is
the attribute that another private name stands for. -/
theorem emit_distinct_fields
    (identified : schema.id ≠ [])
    (isFormatted : s.IsFormatted options)
    (distinctNames : (schema.properties.map Prod.fst).Nodup) :
    (∀ text, s.emit tools commandLine schema = .ok text →
      ∃ d code tree, Declaration.ofSchema s.recordOptions schema = .ok d ∧
        s.moduleText commandLine schema = .ok code ∧ parse code = .ok tree ∧
        (d.fields.map RecordField.name).Perm (s.fieldNames schema) ∧
        (s.fieldNames schema).Nodup ∧
        ((∀ name ∈ s.fieldNames schema, isFieldName name = true) →
          (s.addGenerationComment.isTruthy = true →
            CodePoint.lineFeed ∉ commandLine ∧ CodePoint.carriageReturn ∉ commandLine) →
          d.HasClassBody s.recordOptions tree) ∧
        ((∀ name ∈ s.fieldNames schema, normalForm name = name) →
          ((s.fieldNames schema).map normalForm).Nodup ∧
          ((∀ name ∈ s.fieldNames schema, ∀ other ∈ s.fieldNames schema, name ≠ other →
              attributeName d.className name ≠ other) →
            ((s.fieldNames schema).map (attributeName d.className)).Nodup))) ∧
    ∀ p ∈ schema.properties, ∀ q ∈ schema.properties, p.1 ≠ q.1 →
      Declaration.fieldName s.recordOptions p.1 = Declaration.fieldName s.recordOptions q.1 →
        ∃ failure, s.emit tools commandLine schema = .error failure ∧
          ((∃ className, TypeName.ofUri schema.id = .ok className) →
            (∀ r ∈ schema.properties, ∃ type, resolve r.2.types r.2.format r.2.ref = .ok type) →
              Declaration.ReportsDuplicate s.recordOptions schema failure) := by
  constructor
  · intro text emitted
    obtain ⟨code, tree, module, parsed⟩ := isFormatted.exists_parse_of_emit identified emitted
    obtain ⟨d, declared, rfl⟩ := moduleText_eq_ok_iff.mp module
    have distinct : (s.fieldNames schema).Nodup :=
      (Declaration.exists_ofSchema_iff.mp ⟨d, declared⟩).distinct
    refine ⟨d, _, tree, declared, module, parsed, perm_fieldNames declared, distinct,
      fun identifiers oneLine => ?_, fun normal => ⟨?_, nodup_map_attributeName distinct normal⟩⟩
    -- In Pascal case every name is plain; else it is so as an identifier.
    · have plain : s.recordOptions.capitalize = false →
          ∀ p ∈ schema.properties, Declaration.isPlainName p.1 = true := by
        intro uncapitalized p member
        have field := identifiers _ (List.mem_map_of_mem member)
        rw [Declaration.fieldName, uncapitalized] at field
        exact isPlainName_of_isFieldName field
      have isPlain := Declaration.isPlain_of_ofSchema plain declared
      have loose := isLoose_commentLines fun commented => (oneLine commented).1
      have free := carriageReturn_not_mem_commentLines fun commented => (oneLine commented).2
      exact (isPlain.fields_of_parse loose (isPlain.carriageReturn_not_mem free) parsed).1
    · rwa [List.map_congr_left normal, List.map_id']
  · intro p left q right different same
    obtain ⟨failure, failed, reported⟩ :=
      Declaration.exists_duplicate_of_same distinctNames left right different same
    exact ⟨failure, emit_eq_error_of_ofSchema identified failed, reported⟩

/-- A schema with two properties. -/
def pairSchema (first second : String) : Schema :=
  { id := .ofString "https://example.com/m.json",
    properties := [(.ofString first, { types := .single .string }),
      (.ofString second, { types := .single .integer })] }

/-- The record class of such a schema. -/
def pairDeclaration (first second : String) : Declaration where
  className := .ofString "M"
  fields := [⟨.ofString first, .ofString first, .builtin .text⟩,
    ⟨.ofString second, .ofString second, .builtin .integer⟩]

theorem emit_pairSchema
    {first second : String}
    (ordered : (Text.ofString first).le (.ofString second) = true)
    (different : Text.ofString first ≠ Text.ofString second) :
    ({} : Settings).emit .full programName (pairSchema first second) =
      Formatter.run .full .black (Declaration.moduleCode (({} : Settings).commentLines programName)
        ({} : Settings).recordOptions (pairDeclaration first second)) {} := by
  have sorted : Declaration.sortedProperties (pairSchema first second) =
      (pairSchema first second).properties :=
    List.mergeSort_of_pairwise (by simpa [pairSchema] using ordered)
  have named : TypeName.ofUri (pairSchema first second).id = .ok (.ofString "M") := by
    change TypeName.ofUri (.ofString "https://example.com/m.json") = _
    decide +kernel
  have aligned : List.Forall₂ (Declaration.IsField ({} : Settings).recordOptions)
      (Declaration.sortedProperties (pairSchema first second))
      (pairDeclaration first second).fields := by
    have text : resolve (.single .string) none [] = .ok (.builtin .text) := by decide
    have integer : resolve (.single .integer) none [] = .ok (.builtin .integer) := by decide
    rw [sorted]
    exact .cons ⟨rfl, rfl, text⟩ (.cons ⟨rfl, rfl, integer⟩ .nil)
  have distinct : ((pairDeclaration first second).fields.map RecordField.name).Nodup := by
    simpa [pairDeclaration] using different
  have declared := Declaration.ofSchema_eq_ok_iff.mpr
    ⟨List.cons_ne_nil _ _, named, aligned, distinct⟩
  have identified : (pairSchema first second).id ≠ [] := by
    change Text.ofString "https://example.com/m.json" ≠ []
    decide
  have isFormatted : ({} : Settings).IsFormatted {} := ⟨rfl, rfl⟩
  have black : Formatter.named ({} : FormatterSettings).name = .ok .black := rfl
  rw [isFormatted.emit_eq identified, moduleText_eq_ok_iff.mpr ⟨_, declared, rfl⟩, ok_bind, black,
    ok_bind]

/-- Settings under which field names are in Pascal case. -/
def pascalSettings : Settings := { capitalizeFieldNames := .bool true }

theorem emit_distinct_fields_item :
    (∃ text, ∃ d : Declaration,
      ({} : Settings).emit .full programName (pairSchema "itemId" "item_id") = .ok text ∧
        (([Text.ofString "itemId", .ofString "item_id"]).map (attributeName d.className)).Nodup) ∧
      ∃ failure, pascalSettings.emit .full programName (pairSchema "itemId" "item_id") =
        .error failure ∧
          Declaration.ReportsDuplicate pascalSettings.recordOptions (pairSchema "itemId" "item_id")
            failure := by
  have identified : (pairSchema "itemId" "item_id").id ≠ [] := by decide
  have distinctNames : ((pairSchema "itemId" "item_id").properties.map Prod.fst).Nodup := by decide
  constructor
  · have accepted := (@emit_distinct_fields {} .full programName (pairSchema "itemId" "item_id") {}
      identified ⟨rfl, rfl⟩ distinctNames).1
    obtain ⟨text, emitted⟩ : ∃ text,
        ({} : Settings).emit .full programName (pairSchema "itemId" "item_id") = .ok text := by
      apply exists_ok_of_isSome
      rw [emit_pairSchema (by decide) (by decide)]
      decide +kernel
    obtain ⟨d, code, tree, -, -, -, -, -, -, stays⟩ := accepted text emitted
    have names : ({} : Settings).fieldNames (pairSchema "itemId" "item_id") =
        [.ofString "itemId", .ofString "item_id"] := rfl
    rw [names] at stays
    have ascii : ∀ name ∈ [Text.ofString "itemId", .ofString "item_id"],
        (name.all CodePoint.isAscii && !isPrivateName name) = true := by
      decide
    have normal : ∀ name ∈ [Text.ofString "itemId", .ofString "item_id"], normalForm name = name := by
      intro name member
      obtain ⟨points, -⟩ := Bool.and_eq_true_iff.mp (ascii name member)
      exact normalForm_of_isAscii (List.all_eq_true.mp points)
    refine ⟨text, d, emitted, (stays normal).2 fun name member other inside different => ?_⟩
    obtain ⟨-, shared⟩ := Bool.and_eq_true_iff.mp (ascii name member)
    rw [Bool.not_eq_true'] at shared
    rw [attributeName, normal name member, shared]
    exact different
  · have refused := (@emit_distinct_fields pascalSettings .full programName
      (pairSchema "itemId" "item_id") {} identified ⟨rfl, rfl⟩ distinctNames).2
    obtain ⟨failure, failed, reported⟩ := refused _ List.mem_cons_self _
      (List.mem_cons_of_mem _ List.mem_cons_self) (by decide) (by decide)
    refine ⟨failure, failed, reported ⟨.ofString "M", by decide +kernel⟩ ?_⟩
    intro r member
    simp only [pairSchema, List.mem_cons, List.not_mem_nil, or_false] at member
    rcases member with rfl | rfl
    · exact ⟨.builtin .text, by decide⟩
    · exact ⟨.builtin .integer, by decide⟩

/-- Two properties are emitted that are one field to the compiler: a ligature stands for its letters,
and a private name for an attribute that another property is named by. -/
theorem emit_collapses_fields :
    (∃ text, ({} : Settings).emit .full programName (pairSchema "file" "\ufb01le") = .ok text) ∧
      isFieldName (.ofString "file") = true ∧ isFieldName (.ofString "\ufb01le") = true ∧
      Text.ofString "file" ≠ Text.ofString "\ufb01le" ∧
      normalForm (.ofString "file") = normalForm (.ofString "\ufb01le") ∧
      (∃ text, ({} : Settings).emit .full programName (pairSchema "_M__a" "__a") = .ok text) ∧
      isFieldName (.ofString "_M__a") = true ∧ isFieldName (.ofString "__a") = true ∧
      TypeName.ofUri (pairSchema "_M__a" "__a").id = .ok (.ofString "M") ∧
      attributeName (.ofString "M") (.ofString "_M__a") =
        attributeName (.ofString "M") (.ofString "__a") := by
  have ascii : ∀ t ∈ [Text.ofString "file", .ofString "M", .ofString "_M__a", .ofString "__a"],
      normalForm t = t := by
    intro t member
    refine normalForm_of_isAscii (List.all_eq_true.mp ?_)
    revert t
    decide
  simp only [List.forall_mem_cons] at ascii
  obtain ⟨file, owner, spelled, mangled, -⟩ := ascii
  have evaluated :
      (({} : Settings).emit .full programName (pairSchema "file" "\ufb01le")).toOption.isSome = true ∧
        (({} : Settings).emit .full programName (pairSchema "_M__a" "__a")).toOption.isSome = true := by
    rw [emit_pairSchema (by decide) (by decide), emit_pairSchema (by decide) (by decide)]
    decide +kernel
  refine ⟨exists_ok_of_isSome evaluated.1, by decide, by decide +kernel, by decide, ?_,
    exists_ok_of_isSome evaluated.2, by decide, by decide, by decide +kernel, ?_⟩
  · rw [file]
    decide +kernel
  · rw [attributeName, attributeName, privatePrefix, owner, spelled, mangled]
    decide

end Settings
end RecordGen
