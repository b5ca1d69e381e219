import RecordGen.Proofs.Aligned
import RecordGen.Proofs.Outcome
import RecordGen.Proofs.Text.Order
import RecordGen.Record.Emit

/-!
# Fields and modules

The properties of a schema in order, the fields that they give, and the modules that the fields
need. A run over the properties succeeds exactly when each of them gives a field and no field name
occurs twice.
-/

namespace RecordGen.Declaration

/-! ## Order -/

theorem sortedProperties_perm (schema : Schema) :
    (sortedProperties schema).Perm schema.properties :=
  List.mergeSort_perm _ _

theorem sortedProperties_ordered (schema : Schema) :
    (sortedProperties schema).Pairwise fun p q => p.1 ≤ q.1 := by
  have sorted : (sortedProperties schema).Pairwise fun p q => p.1.le q.1 = true := by
    refine List.pairwise_mergeSort ?_ ?_ _
    · intro p q r first second
      rw [Text.le_eq_true_iff] at first second ⊢
      exact first.trans second
    · intro p q
      rw [Bool.or_eq_true, Text.le_eq_true_iff, Text.le_eq_true_iff]
      exact le_total p.1 q.1
  exact sorted.imp (Text.le_eq_true_iff _ _).mp

/-- Properties with different names are put in strictly ascending order. -/
theorem sortedProperties_ascending
    {schema : Schema}
    (distinctNames : (schema.properties.map Prod.fst).Nodup) :
    (sortedProperties schema).Pairwise fun p q => p.1 < q.1 := by
  have distinct : (sortedProperties schema).Pairwise fun p q => p.1 ≠ q.1 := by
    rw [← List.pairwise_map]
    exact ((sortedProperties_perm schema).map Prod.fst).nodup_iff.mpr distinctNames
  exact ((sortedProperties_ordered schema).and distinct).imp fun both =>
    lt_of_le_of_ne both.1 both.2

/-! ## Modules -/

theorem mem_insertOnce
    {t u : Text} {ts : List Text} :
    u ∈ insertOnce t ts ↔ u = t ∨ u ∈ ts := by
  induction ts with
  | nil =>
      simp [insertOnce]
  | cons other rest inductionHypothesis =>
      simp only [insertOnce]
      split
      · rename_i same
        subst same
        simp
      · split
        · rw [List.mem_cons]
        · rw [List.mem_cons, inductionHypothesis, List.mem_cons]
          tauto

theorem insertOnce_ascending
    {t : Text} {ts : List Text}
    (ascending : ts.Pairwise (· < ·)) :
    (insertOnce t ts).Pairwise (· < ·) := by
  induction ts with
  | nil =>
      simp [insertOnce]
  | cons other rest inductionHypothesis =>
      obtain ⟨least, tail⟩ := List.pairwise_cons.mp ascending
      simp only [insertOnce]
      split
      · exact ascending
      · rename_i different
        split
        · rename_i below
          have less : t < other := lt_of_le_of_ne ((Text.le_eq_true_iff _ _).mp below) different
          refine List.pairwise_cons.mpr ⟨fun u member => ?_, ascending⟩
          rcases List.mem_cons.mp member with rfl | later
          · exact less
          · exact less.trans (least u later)
        · rename_i above
          have less : other < t := by
            rw [Text.le_eq_true_iff] at above
            exact not_le.mp above
          refine List.pairwise_cons.mpr ⟨fun u member => ?_, inductionHypothesis tail⟩
          rcases mem_insertOnce.mp member with rfl | later
          · exact less
          · exact least u later

theorem modules_ascending (d : Declaration) : d.modules.Pairwise (· < ·) := by
  unfold modules
  generalize d.fields.filterMap (fun field => field.type.module?) = needed
  induction needed with
  | nil =>
      exact List.Pairwise.nil
  | cons m rest inductionHypothesis =>
      exact insertOnce_ascending inductionHypothesis

/-- The modules are those that a field needs. -/
theorem mem_modules_iff
    {d : Declaration} {m : Text} :
    m ∈ d.modules ↔ ∃ field ∈ d.fields, field.type.module? = some m := by
  have gathered (needed : List Text) : m ∈ needed.foldr insertOnce [] ↔ m ∈ needed := by
    induction needed with
    | nil =>
        rfl
    | cons n rest inductionHypothesis =>
        rw [List.foldr_cons, mem_insertOnce, inductionHypothesis, List.mem_cons]
  rw [modules, gathered, List.mem_filterMap]

/-! ## Fields -/

/-- The field of a property: its name in the chosen case, and the type that it resolves to. -/
structure IsField (options : RecordOptions) (p : Text × Schema) (field : RecordField) : Prop where
  property : field.property = p.1
  name : field.name = fieldName options p.1
  type : resolve p.2.types p.2.format p.2.ref = .ok field.type

variable {options : RecordOptions}

theorem map_name_eq_of_fields
    {properties : List (Text × Schema)} {fields : List RecordField}
    (aligned : List.Forall₂ (IsField options) properties fields) :
    fields.map RecordField.name = properties.map fun p => fieldName options p.1 :=
  (map_eq_of_aligned (fun _ _ isField => isField.name.symm) aligned).symm

theorem resolveProperty_eq_ok_iff
    {name : Text} {schema : Schema} {type : FieldType} :
    resolveProperty name schema = .ok type ↔
      resolve schema.types schema.format schema.ref = .ok type := by
  unfold resolveProperty
  cases resolve schema.types schema.format schema.ref with
  | ok other =>
      simp
  | error fault =>
      cases fault <;> simp [Attempt.refuse]

theorem find?_name_eq_none_iff
    {taken : List RecordField} {name : Text} :
    (taken.find? fun field => field.name = name) = none ↔
      name ∉ taken.map RecordField.name := by
  simp only [List.find?_eq_none, decide_eq_true_eq, List.mem_map, not_exists, not_and]

/-- One property more succeeds when it resolves, its field name is free, and the others succeed
after it. -/
theorem fieldsAfter_cons_eq_ok_iff
    {taken fields : List RecordField} {p : Text × Schema} {rest : List (Text × Schema)} :
    fieldsAfter options taken (p :: rest) = .ok fields ↔
      ∃ field others, IsField options p field ∧ field.name ∉ taken.map RecordField.name ∧
        fieldsAfter options (taken ++ [field]) rest = .ok others ∧ fields = field :: others := by
  obtain ⟨property, schema⟩ := p
  simp only [fieldsAfter, bind_eq_ok, resolveProperty_eq_ok_iff]
  constructor
  · rintro ⟨type, resolved, later⟩
    split at later
    · cases later
    · rename_i free
      obtain ⟨others, found, last⟩ := bind_eq_ok.mp later
      cases last
      exact ⟨⟨property, fieldName options property, type⟩, others, ⟨rfl, rfl, resolved⟩,
        find?_name_eq_none_iff.mp free, found, rfl⟩
  · rintro ⟨⟨property', name, type⟩, others, ⟨sameProperty, sameName, resolved⟩, free, found, rfl⟩
    obtain rfl : property' = property := sameProperty
    obtain rfl : name = fieldName options property' := sameName
    refine ⟨type, resolved, ?_⟩
    rw [find?_name_eq_none_iff.mpr free]
    exact bind_eq_ok.mpr ⟨others, found, rfl⟩

theorem nodup_names_concat
    {taken : List RecordField} {field : RecordField}
    (distinct : (taken.map RecordField.name).Nodup)
    (free : field.name ∉ taken.map RecordField.name) :
    ((taken ++ [field]).map RecordField.name).Nodup := by
  rw [List.map_append, List.map_singleton, ← List.concat_eq_append]
  exact distinct.concat free

/-- Properties succeed with the fields that they give, if no field name occurs twice. -/
theorem fieldsAfter_eq_ok_iff
    {taken fields : List RecordField} {rest : List (Text × Schema)}
    (distinct : (taken.map RecordField.name).Nodup) :
    fieldsAfter options taken rest = .ok fields ↔
      List.Forall₂ (IsField options) rest fields ∧
        ((taken ++ fields).map RecordField.name).Nodup := by
  induction rest generalizing taken fields with
  | nil =>
      simp only [fieldsAfter, Except.ok.injEq, List.forall₂_nil_left_iff]
      constructor
      · rintro rfl
        exact ⟨rfl, by simpa using distinct⟩
      · rintro ⟨rfl, -⟩
        rfl
  | cons p rest inductionHypothesis =>
      rw [fieldsAfter_cons_eq_ok_iff, List.forall₂_cons_left_iff]
      constructor
      · rintro ⟨field, others, isField, free, found, rfl⟩
        obtain ⟨aligned, whole⟩ := (inductionHypothesis (nodup_names_concat distinct free)).mp found
        exact ⟨⟨field, others, isField, aligned, rfl⟩, by simpa using whole⟩
      · rintro ⟨⟨field, others, isField, aligned, rfl⟩, whole⟩
        have free : field.name ∉ taken.map RecordField.name := by
          rw [List.map_append, List.nodup_append] at whole
          intro member
          exact whole.2.2 _ member _ (by simp) rfl
        have found := (inductionHypothesis (nodup_names_concat distinct free)).mpr
          ⟨aligned, by simpa using whole⟩
        exact ⟨field, others, isField, free, found, rfl⟩

end RecordGen.Declaration
