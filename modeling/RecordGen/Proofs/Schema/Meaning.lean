import RecordGen.Proofs.Aligned
import RecordGen.Proofs.Json.Names
import RecordGen.Proofs.Number.Nearest
import RecordGen.Proofs.Schema.Vocabulary
import RecordGen.Schema.Error

/-!
# The grammar of schemas and what a schema means

Which values are schemas, and which schema a value denotes, said without the decoder. A node is well
formed when each of its keywords has a value that fits and all its children are well formed. What a
node means is said keyword by keyword: an absent keyword leaves the default, and a keyword that is
present is never absent, whatever its value.
-/

namespace RecordGen

/-! ## Numbers -/

/-- The rational number that a value equals. Truth values equal none. -/
def Json.Value.number? : Json.Value → Option ℚ
  | .int i => some i
  | .float x => x.toRat?
  | _ => none

namespace Schema

/-! ## Nodes -/

/-- The value of a keyword of a node, if the node is an object that has it. -/
def keyword? (node : Json.Value) (keyword : Keyword) : Option Json.Value :=
  match node with
  | .obj members => Json.Members.get? members keyword.name
  | _ => none

@[simp]
theorem keyword?_obj
    (members : Json.Members) (keyword : Keyword) :
    keyword? (.obj members) keyword = members.get? keyword.name := rfl

/-- The named children of a node, in document order. -/
def children (node : Json.Value) : List (Text × Json.Value) :=
  match keyword? node .properties with
  | some (.obj entries) => entries
  | _ => []

/-- The children of a node are the members of an object among its own members, if there are any. -/
theorem children_cases (node : Json.Value) :
    children node = [] ∨
      ∃ members, node = .obj members ∧
        (Keyword.properties.name, .obj (children node)) ∈ members := by
  cases node with
  | obj members =>
      rw [children, keyword?_obj]
      split
      case h_1 entries found =>
        obtain ⟨before, after, whole, -⟩ := List.lookup_eq_some_iff.mp found
        exact Or.inr ⟨members, rfl, by simp [whole]⟩
      case h_2 => exact Or.inl rfl
  | _ =>
      exact Or.inl rfl

/-- The children of a node whose names are single have different names, and so have the nodes below. -/
theorem namesOnce_children
    {node : Json.Value}
    (single : node.NamesOnce) :
    (Json.Value.obj (children node)).NamesOnce := by
  rcases children_cases node with none | ⟨members, whole, holder⟩
  · rw [none]
    exact .obj List.nodup_nil (by simp)
  · rw [whole] at single
    cases single with
    | obj _ parts => exact parts _ holder

theorem sizeOf_child_lt
    {node : Json.Value} {child : Text × Json.Value}
    (member : child ∈ children node) :
    sizeOf child.2 < sizeOf node := by
  rcases children_cases node with none | ⟨members, whole, holder⟩
  · rw [none] at member
    cases member
  · have inEntries := List.sizeOf_lt_of_mem member
    have inMembers := List.sizeOf_lt_of_mem holder
    have pair : sizeOf child.2 < sizeOf child := by
      cases child
      simp
    rw [whole]
    simp at inMembers ⊢
    omega

/-- A statement holds of all nodes if it passes from the children of a node to the node. -/
theorem nodeInduction
    {motive : Json.Value → Prop}
    (step : ∀ node, (∀ child ∈ children node, motive child.2) → motive node)
    (node : Json.Value) :
    motive node := by
  apply step
  intro child member
  have smaller := sizeOf_child_lt member
  exact nodeInduction step child.2
termination_by sizeOf node

/-- The words that a value of `type` lists, whatever their order and however often. -/
inductive Lists : Json.Value → PrimitiveType → Prop
  | word (p : PrimitiveType) : Lists (.str p.token) p
  | item {items : List Json.Value} {p : PrimitiveType} : .str p.token ∈ items → Lists (.arr items) p

theorem lists_arr_iff
    {items : List Json.Value} {p : PrimitiveType} :
    Lists (.arr items) p ↔ .str p.token ∈ items :=
  ⟨fun listed => by cases listed; assumption, .item⟩

/-! ## The grammar -/

/-- One of the seven words, or a list of them that is not empty. -/
inductive IsTypeValue : Json.Value → Prop
  | word (p : PrimitiveType) : IsTypeValue (.str p.token)
  | list {items : List Json.Value} :
      items ≠ [] → (∀ item ∈ items, ∃ p : PrimitiveType, item = .str p.token) →
        IsTypeValue (.arr items)

/-- A double-precision number, infinities and NaN included, or an integer that rounds to one. -/
inductive IsNumberValue : Json.Value → Prop
  | float (x : Binary64) : IsNumberValue (.float x)
  | int {i : Int} : i.natAbs < Binary64.overflowBound → IsNumberValue (.int i)

/-- What the value of a keyword has to be. -/
def Fits : Keyword → Json.Value → Prop
  | .schema, _ => True
  | .id, value => ∃ t, value = .str t
  | .ref, value => ∃ t, value = .str t
  | .pattern, value => ∃ t, value = .str t
  | .type, value => IsTypeValue value
  | .format, value => ∃ f : StringFormat, value = .str f.token
  | .multipleOf, value => IsNumberValue value
  | .maximum, value => IsNumberValue value
  | .exclusiveMaximum, value => IsNumberValue value
  | .minimum, value => IsNumberValue value
  | .exclusiveMinimum, value => IsNumberValue value
  | .minLength, value => ∃ n : Nat, value.number? = some (n : ℚ)
  | .maxLength, value => ∃ n : Nat, value.number? = some (n : ℚ)
  | .properties, value => ∃ entries, value = .obj entries

/-- The values that are schemas. -/
inductive WellFormed : Json.Value → Prop
  | node {members : Json.Members} :
      (∀ keyword value, keyword? (.obj members) keyword = some value → Fits keyword value) →
      (∀ child ∈ children (.obj members), WellFormed child.2) →
        WellFormed (.obj members)

/-! ## The meaning -/

/-- What a keyword denotes: the default if it is absent, and else what its value reads as. -/
def Denotes {α : Type} (reads : Json.Value → α → Prop) (default : α) : Option Json.Value → α → Prop
  | none, field => field = default
  | some value, field => reads value field

/-- Reads a value as something that is given. -/
def Given {α : Type} (reads : Json.Value → α → Prop) (value : Json.Value) (field : Option α) :
    Prop :=
  ∃ a, field = some a ∧ reads value a

/-- A text reads as itself. -/
def ReadsText (value : Json.Value) (t : Text) : Prop := value = .str t

/-- The value of `type` reads as the set of the types that it lists. -/
def ReadsTypes (value : Json.Value) (types : TypeSet) : Prop :=
  ∀ p, types.contains p = true ↔ Lists value p

/-- A word reads as the format that it names. -/
def ReadsFormat (value : Json.Value) (f : StringFormat) : Prop := value = .str f.token

/-- A double-precision number reads as itself, an integer as the number nearest to it. -/
inductive ReadsNumber : Json.Value → Binary64 → Prop
  | float (x : Binary64) : ReadsNumber (.float x) x
  | int {i : Int} {x : Binary64} : x.IsNearest i → ReadsNumber (.int i) x

/-- A number reads as the length that it equals. -/
def ReadsLength (value : Json.Value) (n : Nat) : Prop := value.number? = some (n : ℚ)

/-- Every field of a schema but its properties is what the keyword of the node denotes. -/
structure KeywordsMean (node : Json.Value) (schema : Schema) : Prop where
  id : Denotes ReadsText [] (keyword? node .id) schema.id
  ref : Denotes ReadsText [] (keyword? node .ref) schema.ref
  types : Denotes ReadsTypes .empty (keyword? node .type) schema.types
  format : Denotes (Given ReadsFormat) none (keyword? node .format) schema.format
  pattern : Denotes (Given ReadsText) none (keyword? node .pattern) schema.constraints.pattern
  multipleOf :
    Denotes (Given ReadsNumber) none (keyword? node .multipleOf) schema.constraints.multipleOf
  maximum : Denotes (Given ReadsNumber) none (keyword? node .maximum) schema.constraints.maximum
  exclusiveMaximum :
    Denotes (Given ReadsNumber) none (keyword? node .exclusiveMaximum)
      schema.constraints.exclusiveMaximum
  minimum : Denotes (Given ReadsNumber) none (keyword? node .minimum) schema.constraints.minimum
  exclusiveMinimum :
    Denotes (Given ReadsNumber) none (keyword? node .exclusiveMinimum)
      schema.constraints.exclusiveMinimum
  minLength :
    Denotes (Given ReadsLength) none (keyword? node .minLength) schema.constraints.minLength
  maxLength :
    Denotes (Given ReadsLength) none (keyword? node .maxLength) schema.constraints.maxLength

/-- The schema that a node means: its fields are what the keywords denote, and its properties are
the meanings of the children under their names and in their order. -/
inductive Means : Json.Value → Schema → Prop
  | node {members : Json.Members} {schema : Schema} :
      KeywordsMean (.obj members) schema →
      schema.properties.map Prod.fst = (children (.obj members)).map Prod.fst →
      (∀ pair ∈ (children (.obj members)).zip schema.properties, Means pair.1.2 pair.2.2) →
        Means (.obj members) schema

/-! ## One meaning -/

section Unique

variable {α : Type} {reads : Json.Value → α → Prop}

theorem Given.unique
    {value : Json.Value} {field other : Option α}
    (single : ∀ a b, reads value a → reads value b → a = b)
    (left : Given reads value field)
    (right : Given reads value other) :
    field = other := by
  obtain ⟨a, rfl, first⟩ := left
  obtain ⟨b, rfl, second⟩ := right
  rw [single a b first second]

theorem Denotes.unique
    {default field other : α} {found : Option Json.Value}
    (left : Denotes reads default found field)
    (single : ∀ value a b, reads value a → reads value b → a = b)
    (right : Denotes reads default found other) :
    field = other := by
  cases found with
  | none =>
      exact Eq.trans left right.symm
  | some value =>
      exact single value field other left right

/-- An optional field is determined by its keyword if what a value reads as is. -/
theorem Denotes.unique_given
    {field other : Option α} {found : Option Json.Value}
    (left : Denotes (Given reads) none found field)
    (single : ∀ value a b, reads value a → reads value b → a = b)
    (right : Denotes (Given reads) none found other) :
    field = other :=
  left.unique (fun value _ _ => Given.unique (single value)) right

end Unique

theorem ReadsText.unique
    (value : Json.Value) (s t : Text)
    (left : ReadsText value s)
    (right : ReadsText value t) :
    s = t :=
  Json.Value.str.inj (Eq.trans left.symm right)

theorem ReadsTypes.unique
    (value : Json.Value) (s t : TypeSet)
    (left : ReadsTypes value s)
    (right : ReadsTypes value t) :
    s = t :=
  TypeSet.ext_contains fun p => (left p).trans (right p).symm

theorem ReadsFormat.unique
    (value : Json.Value) (f g : StringFormat)
    (left : ReadsFormat value f)
    (right : ReadsFormat value g) :
    f = g :=
  StringFormat.token_injective (Json.Value.str.inj (Eq.trans left.symm right))

theorem ReadsNumber.unique
    (value : Json.Value) (x y : Binary64)
    (left : ReadsNumber value x)
    (right : ReadsNumber value y) :
    x = y := by
  cases left with
  | float x =>
      cases right
      rfl
  | int nearest =>
      cases right with
      | int other => exact nearest.unique other

theorem ReadsLength.unique
    (value : Json.Value) (m n : Nat)
    (left : ReadsLength value m)
    (right : ReadsLength value n) :
    m = n := by
  have same : (m : ℚ) = n := Option.some.inj (Eq.trans left.symm right)
  exact_mod_cast same

/-- The keywords of a node determine all fields but the properties. -/
theorem KeywordsMean.unique
    {node : Json.Value} {schema other : Schema}
    (left : KeywordsMean node schema)
    (right : KeywordsMean node other)
    (properties : schema.properties = other.properties) :
    schema = other := by
  have id := left.id.unique ReadsText.unique right.id
  have ref := left.ref.unique ReadsText.unique right.ref
  have types := left.types.unique ReadsTypes.unique right.types
  have format := left.format.unique_given ReadsFormat.unique right.format
  have pattern := left.pattern.unique_given ReadsText.unique right.pattern
  have multipleOf := left.multipleOf.unique_given ReadsNumber.unique right.multipleOf
  have maximum := left.maximum.unique_given ReadsNumber.unique right.maximum
  have exclusiveMaximum :=
    left.exclusiveMaximum.unique_given ReadsNumber.unique right.exclusiveMaximum
  have minimum := left.minimum.unique_given ReadsNumber.unique right.minimum
  have exclusiveMinimum :=
    left.exclusiveMinimum.unique_given ReadsNumber.unique right.exclusiveMinimum
  have minLength := left.minLength.unique_given ReadsLength.unique right.minLength
  have maxLength := left.maxLength.unique_given ReadsLength.unique right.maxLength
  obtain ⟨_, _, _, _, ⟨_, _, _, _, _, _, _, _⟩, _⟩ := schema
  obtain ⟨_, _, _, _, ⟨_, _, _, _, _, _, _, _⟩, _⟩ := other
  simp only at *
  simp only [*]

/-- The children of a node and the properties of its meaning are aligned. -/
theorem Means.aligned
    {node : Json.Value} {schema : Schema}
    (means : Means node schema) :
    List.Forall₂ (fun child property => child.1 = property.1 ∧ Means child.2 property.2)
      (children node) schema.properties := by
  cases means with
  | @node members _ keywords names below =>
      have sameNames : List.Forall₂ (fun child property => child.1 = property.1)
          (children (.obj members)) schema.properties :=
        aligned_of_map_eq names.symm fun _ _ _ _ same => same
      refine List.forall₂_iff_zip.mpr ⟨sameNames.length_eq, fun paired => ⟨?_, below _ paired⟩⟩
      exact List.forall₂_zip sameNames paired

theorem Means.keywords
    {node : Json.Value} {schema : Schema}
    (means : Means node schema) :
    KeywordsMean node schema := by
  cases means
  assumption

/-- A value means one schema. -/
theorem Means.unique
    (node : Json.Value) :
    ∀ {schema other}, Means node schema → Means node other → schema = other := by
  induction node using nodeInduction with
  | step node inductionHypothesis =>
      intro schema other left right
      have properties : schema.properties = other.properties := by
        refine eq_of_aligned (fun child inside p q first second => ?_) left.aligned right.aligned
        have name := first.1.symm.trans second.1
        have meaning := inductionHypothesis child inside first.2 second.2
        exact Prod.ext name meaning
      exact left.keywords.unique right.keywords properties

end Schema
end RecordGen
