import RecordGen.Proofs.Record.Fields

/-!
# Record texts

When a schema gives a record class, which text is written for it, and which error is reported if
there is none. The fields are found property by property, in ascending order of the names, so what
is reported is the fault of the least property that has one.
-/

namespace RecordGen.Declaration

/-! ## Faults -/

/-- What a property is refused with: it does not resolve, or the property `q` before it has its
field name. -/
inductive PropertyFault (options : RecordOptions) (properties : List (Text × Schema))
    (p : Text × Schema) : GeneratorError → Prop
  | unsupported :
      resolve p.2.types p.2.format p.2.ref = .error (.unsupported p.2.types p.2.format) →
        PropertyFault options properties p (.unsupportedType p.2.types p.2.format (some p.1))
  | reference {error : NameError} :
      resolve p.2.types p.2.format p.2.ref = .error (.naming error) → error.uri = p.2.ref →
        PropertyFault options properties p (.naming error (some p.1))
  | taken {type : FieldType} {q : Text × Schema} :
      resolve p.2.types p.2.format p.2.ref = .ok type → q ∈ properties → q.1 < p.1 →
        fieldName options q.1 = fieldName options p.1 →
          PropertyFault options properties p (.duplicateField (fieldName options p.1) q.1 p.1)

def LeastFault (options : RecordOptions) (properties : List (Text × Schema))
    (error : GeneratorError) : Prop :=
  ∃ p ∈ properties, PropertyFault options properties p error ∧
    ∀ q ∈ properties, q.1 < p.1 → ∀ other, ¬ PropertyFault options properties q other

/-- What a schema is refused with: it has no properties, its identifier gives no name, or a property
has a fault. Each kind comes before the next. -/
inductive FirstFault (options : RecordOptions) (schema : Schema) : GeneratorError → Prop
  | noProperties :
      schema.properties = [] → FirstFault options schema (.noProperties schema.id)
  | identifier {error : NameError} :
      schema.properties ≠ [] → TypeName.ofUri schema.id = .error error →
        FirstFault options schema (.naming error none)
  | property {className : Text} {error : GeneratorError} :
      TypeName.ofUri schema.id = .ok className → LeastFault options schema.properties error →
        FirstFault options schema error

theorem uri_of_ofUri_eq_error
    {uri : Text} {error : NameError}
    (failed : TypeName.ofUri uri = .error error) :
    error.uri = uri := by
  unfold TypeName.ofUri at failed
  split at failed
  · cases failed
    rfl
  · split at failed
    · cases failed
      rfl
    · cases failed

/-- An error of resolution is about the declared types and format, or about the reference. -/
theorem resolve_error_cases
    {types : TypeSet} {format : Option StringFormat} {ref : Text} {fault : ResolveError}
    (failed : resolve types format ref = .error fault) :
    fault = .unsupported types format ∨ ∃ error, fault = .naming error ∧ error.uri = ref := by
  unfold resolve at failed
  split at failed
  · cases failed
  · split at failed
    · cases failed
    · split at failed
      · cases failed
        exact Or.inl rfl
      · split at failed
        · cases failed
        · rename_i error named
          cases failed
          exact Or.inr ⟨error, rfl, uri_of_ofUri_eq_error named⟩

variable {options : RecordOptions} {properties : List (Text × Schema)} {p q : Text × Schema}

/-- A property that does not resolve is refused with its own data. -/
theorem propertyFault_of_resolveProperty
    {failure : Failure}
    (failed : resolveProperty p.1 p.2 = .error failure) :
    ∃ error, failure = .generator error ∧ PropertyFault options properties p error := by
  unfold resolveProperty at failed
  cases resolution : resolve p.2.types p.2.format p.2.ref with
  | ok type =>
      rw [resolution] at failed
      cases failed
  | error fault =>
      rcases resolve_error_cases resolution with rfl | ⟨error, rfl, own⟩
      · rw [resolution] at failed
        cases failed
        exact ⟨_, rfl, .unsupported resolution⟩
      · rw [resolution] at failed
        cases failed
        exact ⟨_, rfl, .reference resolution own⟩

/-- A property has a fault exactly when it does not resolve or shares the field name of one before
it. -/
theorem exists_propertyFault_iff :
    (∃ error, PropertyFault options properties p error) ↔
      (∀ type, resolve p.2.types p.2.format p.2.ref ≠ .ok type) ∨
        ∃ q ∈ properties, q.1 < p.1 ∧ fieldName options q.1 = fieldName options p.1 := by
  constructor
  · rintro ⟨error, fault⟩
    cases fault with
    | unsupported failed =>
        exact Or.inl fun type resolved => by rw [resolved] at failed; cases failed
    | reference failed own =>
        exact Or.inl fun type resolved => by rw [resolved] at failed; cases failed
    | @taken type q resolved member before same =>
        exact Or.inr ⟨q, member, before, same⟩
  · intro faulty
    cases resolution : resolve p.2.types p.2.format p.2.ref with
    | ok type =>
        rcases faulty with unresolved | ⟨q, member, before, same⟩
        · exact absurd resolution (unresolved type)
        · exact ⟨_, .taken resolution member before same⟩
    | error fault =>
        rcases resolve_error_cases resolution with rfl | ⟨error, rfl, own⟩
        · exact ⟨_, .unsupported resolution⟩
        · exact ⟨_, .reference resolution own⟩

/-- A property has one fault if no property before it has any. -/
theorem PropertyFault.unique
    {error other : GeneratorError}
    (left : PropertyFault options properties p error)
    (right : PropertyFault options properties p other)
    (least : ∀ q ∈ properties, q.1 < p.1 → ∀ other, ¬ PropertyFault options properties q other) :
    error = other := by
  cases left with
  | unsupported failed =>
      cases right with
      | unsupported => rfl
      | reference failed' => rw [failed] at failed'; cases failed'
      | taken resolved => rw [failed] at resolved; cases resolved
  | reference failed =>
      cases right with
      | unsupported failed' => rw [failed] at failed'; cases failed'
      | reference failed' => rw [failed] at failed'; cases failed'; rfl
      | taken resolved => rw [failed] at resolved; cases resolved
  | @taken type q resolved member before same =>
      cases right with
      | unsupported failed => rw [resolved] at failed; cases failed
      | reference failed => rw [resolved] at failed; cases failed
      | @taken type' q' resolved' member' before' same' =>
          -- Of two earlier properties with the field name, the later one would have a fault itself.
          have shared {a b : Text × Schema} (inside : a ∈ properties) (inside' : b ∈ properties)
              (below : b.1 < p.1) (sameName : fieldName options a.1 = fieldName options b.1) :
              ¬ a.1 < b.1 := by
            intro less
            obtain ⟨other, fault⟩ :=
              exists_propertyFault_iff.mpr (Or.inr ⟨a, inside, less, sameName⟩)
            exact least b inside' below other fault
          have forward := shared member member' before' (same.trans same'.symm)
          have backward := shared member' member before (same'.trans same.symm)
          rw [le_antisymm (not_lt.mp backward) (not_lt.mp forward)]

theorem LeastFault.unique
    {error other : GeneratorError}
    (distinctNames : (properties.map Prod.fst).Nodup)
    (left : LeastFault options properties error)
    (right : LeastFault options properties other) :
    error = other := by
  obtain ⟨p, member, fault, least⟩ := left
  obtain ⟨q, member', fault', least'⟩ := right
  rcases lt_trichotomy p.1 q.1 with less | same | greater
  · exact absurd fault (least' p member less error)
  · obtain rfl : p = q := List.inj_on_of_nodup_map distinctNames member member' same
    exact fault.unique fault' least
  · exact absurd fault' (least q member' greater other)

/-- The order in which properties are listed does not count. -/
theorem PropertyFault.perm
    {others : List (Text × Schema)} {error : GeneratorError}
    (permuted : properties.Perm others)
    (fault : PropertyFault options properties p error) :
    PropertyFault options others p error := by
  cases fault with
  | unsupported failed => exact .unsupported failed
  | reference failed own => exact .reference failed own
  | taken resolved member before same =>
      exact .taken resolved (permuted.mem_iff.mp member) before same

theorem LeastFault.perm
    {others : List (Text × Schema)} {error : GeneratorError}
    (permuted : properties.Perm others)
    (least : LeastFault options properties error) :
    LeastFault options others error := by
  obtain ⟨p, member, fault, minimal⟩ := least
  refine ⟨p, permuted.mem_iff.mp member, fault.perm permuted, ?_⟩
  intro q inside before other faulty
  exact minimal q (permuted.mem_iff.mpr inside) before other (faulty.perm permuted.symm)

/-! ## The run over the properties -/

/-- A run that fails on its first property fails for one of two reasons, or it goes on. -/
theorem fieldsAfter_cons_eq_error
    {taken : List RecordField} {rest : List (Text × Schema)} {failure : Failure}
    (failed : fieldsAfter options taken (p :: rest) = .error failure) :
    resolveProperty p.1 p.2 = .error failure ∨
      (∃ type, resolve p.2.types p.2.format p.2.ref = .ok type ∧
        ∃ other ∈ taken, other.name = fieldName options p.1 ∧
          failure = .generator (.duplicateField (fieldName options p.1) other.property p.1)) ∨
        ∃ field, IsField options p field ∧ field.name ∉ taken.map RecordField.name ∧
          fieldsAfter options (taken ++ [field]) rest = .error failure := by
  obtain ⟨property, schema⟩ := p
  simp only [fieldsAfter, bind_eq_error, resolveProperty_eq_ok_iff] at failed
  rcases failed with unresolved | ⟨type, resolved, later⟩
  · exact Or.inl unresolved
  · split at later
    · rename_i other found
      have same := List.find?_some found
      cases later
      exact Or.inr (Or.inl ⟨type, resolved, other, List.mem_of_find?_eq_some found,
        of_decide_eq_true same, rfl⟩)
    · rename_i free
      rcases bind_eq_error.mp later with failed | ⟨others, -, last⟩
      · exact Or.inr (Or.inr ⟨⟨property, fieldName options property, type⟩, ⟨rfl, rfl, resolved⟩,
          find?_name_eq_none_iff.mp free, failed⟩)
      · cases last

/-- The properties that a run has passed have no fault: they resolve, and their field names are
distinct. -/
theorem not_propertyFault_of_passed
    {passed rest : List (Text × Schema)} {taken : List RecordField}
    (ordered : (passed ++ rest).Pairwise fun p q => p.1 < q.1)
    (aligned : List.Forall₂ (IsField options) passed taken)
    (distinct : (taken.map RecordField.name).Nodup)
    (member : q ∈ passed) :
    ∀ error, ¬ PropertyFault options (passed ++ rest) q error := by
  intro error fault
  obtain ⟨field, -, isField⟩ := exists_right_of_mem aligned member
  rcases exists_propertyFault_iff.mp ⟨error, fault⟩ with unresolved | ⟨r, inside, before, same⟩
  · exact unresolved field.type isField.type
  · have earlier : r ∈ passed := by
      rcases List.mem_append.mp inside with earlier | later
      · exact earlier
      · have after := (List.pairwise_append.mp ordered).2.2 q member r later
        exact absurd before after.not_gt
    rw [map_name_eq_of_fields aligned] at distinct
    obtain rfl : r = q := List.inj_on_of_nodup_map distinct earlier member same
    exact lt_irrefl r.1 before

/-- The run reports the least property with a fault: it is on its way through ascending properties,
and those that it has passed have none. -/
theorem leastFault_of_fieldsAfter
    {passed rest : List (Text × Schema)} {taken : List RecordField} {failure : Failure}
    (ordered : (passed ++ rest).Pairwise fun p q => p.1 < q.1)
    (aligned : List.Forall₂ (IsField options) passed taken)
    (distinct : (taken.map RecordField.name).Nodup)
    (failed : fieldsAfter options taken rest = .error failure) :
    ∃ error, failure = .generator error ∧ LeastFault options (passed ++ rest) error := by
  -- The properties that have passed are fields already, so none of them has a fault.
  induction rest generalizing passed taken with
  | nil =>
      cases failed
  | cons p rest inductionHypothesis =>
      have inside : p ∈ passed ++ p :: rest := by simp
      have least : ∀ q ∈ passed ++ p :: rest, q.1 < p.1 →
          ∀ other, ¬ PropertyFault options (passed ++ p :: rest) q other := by
        intro q member before
        have earlier : q ∈ passed := by
          rcases List.mem_append.mp member with earlier | later
          · exact earlier
          · rcases List.mem_cons.mp later with rfl | behind
            · exact absurd before (lt_irrefl _)
            · have tail := (List.pairwise_append.mp ordered).2.1
              exact absurd before ((List.pairwise_cons.mp tail).1 q behind).not_gt
        exact not_propertyFault_of_passed ordered aligned distinct earlier
      rcases fieldsAfter_cons_eq_error failed with
        unresolved | ⟨type, resolved, other, member, same, rfl⟩ | ⟨field, isField, free, later⟩
      · obtain ⟨error, rfl, fault⟩ := propertyFault_of_resolveProperty unresolved
        exact ⟨error, rfl, p, inside, fault, least⟩
      · obtain ⟨q, earlier, isOther⟩ := exists_left_of_mem aligned member
        have before : q.1 < p.1 :=
          (List.pairwise_append.mp ordered).2.2 q earlier p List.mem_cons_self
        have fault : PropertyFault options (passed ++ p :: rest) p
            (.duplicateField (fieldName options p.1) q.1 p.1) :=
          .taken resolved (List.mem_append_left _ earlier) before (isOther.name.symm.trans same)
        rw [isOther.property]
        exact ⟨_, rfl, p, inside, fault, least⟩
      · have split : passed ++ p :: rest = (passed ++ [p]) ++ rest := by simp
        rw [split] at ordered ⊢
        exact inductionHypothesis ordered (List.rel_append aligned (.cons isField .nil))
          (nodup_names_concat distinct free) later

/-! ## Schemas -/

/-- What a schema needs to give a record class: a property, a name, a type for each property, and
distinct field names. -/
structure Declares (options : RecordOptions) (schema : Schema) : Prop where
  nonempty : schema.properties ≠ []
  named : ∃ className, TypeName.ofUri schema.id = .ok className
  resolved :
    ∀ p ∈ schema.properties, ∃ type, resolve p.2.types p.2.format p.2.ref = .ok type
  distinct : (schema.properties.map fun p => fieldName options p.1).Nodup

variable {schema : Schema}

theorem ofSchema_eq_ok_iff
    {d : Declaration} :
    ofSchema options schema = .ok d ↔
      schema.properties ≠ [] ∧ TypeName.ofUri schema.id = .ok d.className ∧
        List.Forall₂ (IsField options) (sortedProperties schema) d.fields ∧
          (d.fields.map RecordField.name).Nodup := by
  unfold ofSchema
  cases properties : schema.properties with
  | nil =>
      simp [Attempt.refuse]
  | cons p rest =>
      cases TypeName.ofUri schema.id with
      | error error =>
          simp [Attempt.refuse]
      | ok className =>
          have run {fields : List RecordField} :=
            @fieldsAfter_eq_ok_iff options [] fields (sortedProperties schema) List.nodup_nil
          simp only [List.isEmpty_cons, Bool.false_eq_true, ↓reduceIte, bind_eq_ok, run,
            List.nil_append, ne_eq, reduceCtorEq, not_false_eq_true, true_and, Except.ok.injEq]
          constructor
          · rintro ⟨fields, found, last⟩
            cases last
            exact ⟨rfl, found⟩
          · rintro ⟨rfl, found⟩
            exact ⟨d.fields, found, rfl⟩

/-- A schema gives a record class exactly when nothing is missing. -/
theorem exists_ofSchema_iff :
    (∃ d, ofSchema options schema = .ok d) ↔ Declares options schema := by
  have permuted := sortedProperties_perm schema
  have names : (schema.properties.map fun p => fieldName options p.1).Nodup ↔
      ((sortedProperties schema).map fun p => fieldName options p.1).Nodup :=
    (permuted.map _).nodup_iff.symm
  constructor
  · rintro ⟨d, declared⟩
    obtain ⟨nonempty, named, aligned, distinct⟩ := ofSchema_eq_ok_iff.mp declared
    refine ⟨nonempty, ⟨_, named⟩, fun p member => ?_, ?_⟩
    · obtain ⟨field, -, isField⟩ := exists_right_of_mem aligned (permuted.mem_iff.mpr member)
      exact ⟨field.type, isField.type⟩
    · rwa [names, ← map_name_eq_of_fields aligned]
  · rintro ⟨nonempty, ⟨className, named⟩, resolved, distinct⟩
    have partners : ∀ p ∈ sortedProperties schema, ∃ field, IsField options p field := by
      intro p member
      obtain ⟨type, found⟩ := resolved p (permuted.mem_iff.mp member)
      exact ⟨⟨p.1, fieldName options p.1, type⟩, rfl, rfl, found⟩
    obtain ⟨fields, aligned⟩ := exists_aligned_iff.mpr partners
    rw [names, ← map_name_eq_of_fields aligned] at distinct
    exact ⟨⟨className, fields⟩, ofSchema_eq_ok_iff.mpr ⟨nonempty, named, aligned, distinct⟩⟩

/-- A schema that gives a record class has no fault. -/
theorem Declares.not_firstFault
    {error : GeneratorError}
    (declares : Declares options schema) :
    ¬ FirstFault options schema error := by
  intro fault
  cases fault with
  | noProperties empty =>
      exact declares.nonempty empty
  | identifier nonempty failed =>
      obtain ⟨className, named⟩ := declares.named
      rw [named] at failed
      cases failed
  | property named least =>
      obtain ⟨p, member, fault, -⟩ := least
      rcases exists_propertyFault_iff.mp ⟨error, fault⟩ with unresolved | ⟨q, inside, before, same⟩
      · obtain ⟨type, resolved⟩ := declares.resolved p member
        exact unresolved type resolved
      · obtain rfl : q = p := List.inj_on_of_nodup_map declares.distinct inside member same
        exact lt_irrefl q.1 before

theorem FirstFault.unique
    {error other : GeneratorError}
    (distinctNames : (schema.properties.map Prod.fst).Nodup)
    (left : FirstFault options schema error)
    (right : FirstFault options schema other) :
    error = other := by
  cases left with
  | noProperties empty =>
      cases right with
      | noProperties => rfl
      | identifier nonempty => exact absurd empty nonempty
      | property named least =>
          obtain ⟨p, member, -⟩ := least
          rw [empty] at member
          cases member
  | identifier nonempty failed =>
      cases right with
      | noProperties empty => exact absurd empty nonempty
      | identifier _ failed' => rw [failed] at failed'; cases failed'; rfl
      | property named => rw [failed] at named; cases named
  | property named least =>
      cases right with
      | noProperties empty =>
          obtain ⟨p, member, -⟩ := least
          rw [empty] at member
          cases member
      | identifier _ failed => rw [named] at failed; cases failed
      | property _ least' => exact least.unique distinctNames least'

/-- A schema that gives no record class is refused with its first fault. -/
theorem firstFault_of_ofSchema
    {failure : Failure}
    (distinctNames : (schema.properties.map Prod.fst).Nodup)
    (failed : ofSchema options schema = .error failure) :
    ∃ error, failure = .generator error ∧ FirstFault options schema error := by
  unfold ofSchema at failed
  split at failed
  · rename_i empty
    cases failed
    exact ⟨_, rfl, .noProperties (List.isEmpty_iff.mp empty)⟩
  · rename_i nonempty
    split at failed
    · rename_i error named
      cases failed
      exact ⟨_, rfl, .identifier (fun empty => nonempty (List.isEmpty_iff.mpr empty)) named⟩
    · rename_i className named
      rcases bind_eq_error.mp failed with run | ⟨fields, -, last⟩
      · obtain ⟨error, rfl, least⟩ :=
          leastFault_of_fieldsAfter (sortedProperties_ascending distinctNames) .nil
            List.nodup_nil run
        exact ⟨error, rfl, .property named (least.perm (sortedProperties_perm schema))⟩
      · cases last

theorem ofSchema_eq_error_iff
    {failure : Failure}
    (distinctNames : (schema.properties.map Prod.fst).Nodup) :
    ofSchema options schema = .error failure ↔
      ∃ error, failure = .generator error ∧ FirstFault options schema error := by
  constructor
  · exact firstFault_of_ofSchema distinctNames
  · rintro ⟨error, rfl, fault⟩
    cases outcome : ofSchema options schema with
    | ok d =>
        exact absurd fault (exists_ofSchema_iff.mp ⟨d, outcome⟩).not_firstFault
    | error failure =>
        obtain ⟨other, rfl, first⟩ := firstFault_of_ofSchema distinctNames outcome
        rw [first.unique distinctNames fault]

/-! ## Texts -/

/-- The line of a field: four spaces, its name, a colon, and its annotation. -/
def IsFieldLine (options : RecordOptions) (p : Text × Schema) (line : Text) : Prop :=
  ∃ type, resolve p.2.types p.2.format p.2.ref = .ok type ∧
    line = Text.ofString "    " ++ fieldName options p.1 ++ Text.ofString ": " ++
      annotationText options type ++ Text.ofString "\n"

/-- The lines between the imports and the name of the class. -/
def decoratorLines : Text :=
  .ofString "from dataclasses import dataclass\n\n\n@dataclass\nclass "

/-- The text of a record class: a line for each module that an annotation needs, ascending, the
class and its decorator, and a line for each property, ascending by name. -/
inductive IsRecordText (options : RecordOptions) (schema : Schema) : Text → Prop
  | lines {className : Text} {imports fields : List Text} {ordered : List (Text × Schema)} :
      TypeName.ofUri schema.id = .ok className →
      imports.Pairwise (· < ·) →
      (∀ m, m ∈ imports ↔ ∃ p ∈ schema.properties, ∃ type,
        resolve p.2.types p.2.format p.2.ref = .ok type ∧ type.module? = some m) →
      ordered.Perm schema.properties →
      ordered.Pairwise (fun p q => p.1 < q.1) →
      List.Forall₂ (IsFieldLine options) ordered fields →
        IsRecordText options schema
          (imports.flatMap (fun m => Text.ofString "import " ++ m ++ Text.ofString "\n") ++
            decoratorLines ++ className ++ Text.ofString ":\n" ++ fields.flatten)

theorem line_eq (t : Text) : t.line = t ++ Text.ofString "\n" := rfl

theorem IsRecordText.unique
    {text other : Text}
    (left : IsRecordText options schema text)
    (right : IsRecordText options schema other) :
    text = other := by
  obtain ⟨named, ascending, needed, permuted, ordered, lines⟩ := left
  obtain ⟨named', ascending', needed', permuted', ordered', lines'⟩ := right
  obtain rfl := Except.ok.inj (named.symm.trans named')
  obtain rfl := Text.eq_of_ascending ascending ascending' fun m => (needed m).trans (needed' m).symm
  obtain rfl := (permuted.trans permuted'.symm).eq_of_pairwise
    (fun p q _ _ below above => absurd above below.not_gt) ordered ordered'
  have single : Relator.RightUnique (IsFieldLine options) := by
    rintro p _ _ ⟨type, resolved, rfl⟩ ⟨type', resolved', rfl⟩
    rw [Except.ok.inj (resolved.symm.trans resolved')]
  rw [List.right_unique_forall₂' single lines lines']

/-- The text of a declaration, part by part. -/
theorem text_eq (d : Declaration) :
    d.text options =
      d.modules.flatMap (fun m => Text.ofString "import " ++ m ++ Text.ofString "\n") ++
        decoratorLines ++ d.className ++ Text.ofString ":\n" ++
          d.fields.flatMap (fieldLine options) := by
  have decorator : decoratorLines =
      Text.line (.ofString "from dataclasses import dataclass") ++ Text.line [] ++ Text.line [] ++
        Text.line (.ofString "@dataclass") ++ Text.ofString "class " := by
    decide
  have heading : Text.ofString ":\n" = Text.ofString ":" ++ Text.ofString "\n" := rfl
  rw [decorator, heading]
  simp only [text, importBlock, line_eq, List.append_assoc]

/-- The declaration of a schema is written as its record text. -/
theorem isRecordText_text
    {d : Declaration}
    (distinctNames : (schema.properties.map Prod.fst).Nodup)
    (declared : ofSchema options schema = .ok d) :
    IsRecordText options schema (d.text options) := by
  obtain ⟨-, named, aligned, -⟩ := ofSchema_eq_ok_iff.mp declared
  have permuted := sortedProperties_perm schema
  have needed (m : Text) : m ∈ d.modules ↔ ∃ p ∈ schema.properties, ∃ type,
      resolve p.2.types p.2.format p.2.ref = .ok type ∧ type.module? = some m := by
    rw [mem_modules_iff]
    constructor
    · rintro ⟨field, member, module⟩
      obtain ⟨p, inside, isField⟩ := exists_left_of_mem aligned member
      exact ⟨p, permuted.mem_iff.mp inside, field.type, isField.type, module⟩
    · rintro ⟨p, inside, type, resolved, module⟩
      obtain ⟨field, member, isField⟩ :=
        exists_right_of_mem aligned (permuted.mem_iff.mpr inside)
      obtain rfl := Except.ok.inj (resolved.symm.trans isField.type)
      exact ⟨field, member, module⟩
  have lines : List.Forall₂ (IsFieldLine options) (sortedProperties schema)
      (d.fields.map (fieldLine options)) := by
    rw [List.forall₂_map_right_iff]
    refine aligned.imp fun p field isField => ⟨field.type, isField.type, ?_⟩
    rw [fieldLine, isField.name, line_eq]
  have written := IsRecordText.lines named (modules_ascending d) needed permuted
    (sortedProperties_ascending distinctNames) lines
  rwa [← List.flatMap_def, ← text_eq] at written

/-- What generating the record text of a schema comes to, for every schema and all settings. It
succeeds exactly when nothing is missing, with exactly the record text, and it fails exactly with
the first fault. -/
theorem recordText_outcomes
    {s : Settings} {schema : Schema}
    (distinctNames : (schema.properties.map Prod.fst).Nodup) :
    ((∃ text, s.recordText schema = .ok text) ↔ Declares s.recordOptions schema) ∧
      (∀ text, s.recordText schema = .ok text ↔
        Declares s.recordOptions schema ∧ IsRecordText s.recordOptions schema text) ∧
        ∀ failure, s.recordText schema = .error failure ↔
          ∃ error, failure = .generator error ∧ FirstFault s.recordOptions schema error := by
  have succeeds : (∃ text, s.recordText schema = .ok text) ↔ Declares s.recordOptions schema := by
    simp only [Settings.recordText, map_eq_ok, ← exists_ofSchema_iff]
    constructor
    · rintro ⟨text, d, declared, -⟩
      exact ⟨d, declared⟩
    · rintro ⟨d, declared⟩
      exact ⟨_, d, declared, rfl⟩
  have written {text : Text} (done : s.recordText schema = .ok text) :
      IsRecordText s.recordOptions schema text := by
    obtain ⟨d, declared, rfl⟩ := map_eq_ok.mp done
    exact isRecordText_text distinctNames declared
  refine ⟨succeeds, fun text => ⟨fun done => ⟨succeeds.mp ⟨text, done⟩, written done⟩, ?_⟩, ?_⟩
  · rintro ⟨declares, isText⟩
    obtain ⟨other, done⟩ := succeeds.mpr declares
    rw [done, (written done).unique isText]
  · intro failure
    rw [Settings.recordText, map_eq_error, ofSchema_eq_error_iff distinctNames]

/-- A schema with two properties, not in order. -/
def pointSchema : Schema :=
  { id := .ofString "https://example.com/point.json",
    properties := [(.ofString "y", { types := .single .number }),
      (.ofString "x", { types := .single .integer, format := some .uuid })] }

theorem recordText_outcomes_point :
    (pointSchema.properties.map Prod.fst).Nodup ∧
      ∃ text, ({} : Settings).recordText pointSchema = .ok text := by
  have distinctNames : (pointSchema.properties.map Prod.fst).Nodup := by decide
  have declares : Declares ({} : Settings).recordOptions pointSchema := by
    refine ⟨by decide, ⟨.ofString "Point", by rfl⟩, fun p member => ?_, by decide⟩
    simp only [pointSchema, List.mem_cons, List.not_mem_nil, or_false] at member
    rcases member with rfl | rfl
    · exact ⟨.builtin .float, by decide⟩
    · exact ⟨.builtin .integer, by decide⟩
  exact ⟨distinctNames, (recordText_outcomes distinctNames).1.mpr declares⟩

end RecordGen.Declaration
