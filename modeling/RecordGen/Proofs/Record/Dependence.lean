import RecordGen.Proofs.Json.Names
import RecordGen.Proofs.Record.Fields
import RecordGen.Proofs.Schema.Decoding

/-!
# What generated code depends on

Two documents that agree on what generation reads give the same result, be it a text or an error.
What is read is the identifier of the root, the names of its properties, and the declared types, the
format and the reference of each property. The order of properties and of keywords, the order and
the repetition of declared types, and all other keywords have no influence.
-/

namespace RecordGen

namespace Schema

/-! ## What is read -/

/-- The text under a keyword of a node, empty if there is none. -/
def textOf (node : Json.Value) (keyword : Keyword) : Text :=
  match keyword? node keyword with
  | some (.str t) => t
  | _ => []

def DeclaresType (node : Json.Value) (p : PrimitiveType) : Prop :=
  ∃ value, keyword? node .type = some value ∧ Lists value p

theorem declaresType_iff
    {node value : Json.Value} {p : PrimitiveType}
    (found : keyword? node .type = some value) :
    DeclaresType node p ↔ Lists value p := by
  simp [DeclaresType, found]

theorem not_declaresType
    {node : Json.Value} {p : PrimitiveType}
    (absent : keyword? node .type = none) :
    ¬ DeclaresType node p := by
  simp [DeclaresType, absent]

/-- Two properties declare the same types, the same format and the same reference. -/
structure SameFace (node other : Json.Value) : Prop where
  types : ∀ p, DeclaresType node p ↔ DeclaresType other p
  format : keyword? node .format = keyword? other .format
  ref : textOf node .ref = textOf other .ref

/-- Two roots have the same identifier and the same property names, and their properties agree name
by name. -/
structure SameRoot (node other : Json.Value) : Prop where
  id : textOf node .id = textOf other .id
  names : ∀ name, name ∈ (children node).map Prod.fst ↔ name ∈ (children other).map Prod.fst
  faces : ∀ child ∈ children node, ∀ child' ∈ children other,
    child.1 = child'.1 → SameFace child.2 child'.2

/-- The children of a node whose names are single have different names. -/
theorem nodup_children
    {node : Json.Value}
    (single : node.NamesOnce) :
    ((children node).map Prod.fst).Nodup := by
  cases namesOnce_children single with
  | obj names _ => exact names

/-! ## What schemas keep of it -/

/-- Two schemas have the types, the format and the reference in common. -/
structure SameReading (schema other : Schema) : Prop where
  types : schema.types = other.types
  format : schema.format = other.format
  ref : schema.ref = other.ref

theorem eq_textOf_of_denotes
    {node : Json.Value} {keyword : Keyword} {t : Text}
    (denotes : Denotes ReadsText [] (keyword? node keyword) t) :
    t = textOf node keyword := by
  unfold textOf
  cases found : keyword? node keyword with
  | none =>
      rw [found] at denotes
      exact denotes
  | some value =>
      rw [found] at denotes
      obtain rfl : value = .str t := denotes
      rfl

theorem contains_iff_declaresType
    {node : Json.Value} {types : TypeSet}
    (denotes : Denotes ReadsTypes .empty (keyword? node .type) types)
    (p : PrimitiveType) :
    types.contains p = true ↔ DeclaresType node p := by
  cases found : keyword? node .type with
  | none =>
      rw [found] at denotes
      rw [show types = .empty from denotes]
      simp [not_declaresType found]
  | some value =>
      rw [found] at denotes
      rw [declaresType_iff found]
      exact denotes p

/-- Properties with the same face are decoded to schemas that read the same. -/
theorem SameFace.sameReading
    {node other : Json.Value} {schema otherSchema : Schema}
    (face : SameFace node other)
    (means : Means node schema)
    (meansOther : Means other otherSchema) :
    SameReading schema otherSchema := by
  have left := means.keywords
  have right := meansOther.keywords
  refine ⟨TypeSet.ext_contains fun p => ?_, ?_, ?_⟩
  · rw [contains_iff_declaresType left.types, contains_iff_declaresType right.types, face.types p]
  · exact left.format.unique_given ReadsFormat.unique (face.format ▸ right.format)
  · rw [eq_textOf_of_denotes left.ref, eq_textOf_of_denotes right.ref, face.ref]

/-- The names of the properties are those of the children. -/
theorem Means.map_fst_properties
    {node : Json.Value} {schema : Schema}
    (means : Means node schema) :
    schema.properties.map Prod.fst = (children node).map Prod.fst :=
  (map_eq_of_aligned (fun _ _ both => both.1) means.aligned).symm

end Schema

namespace Declaration

/-! ## Declarations -/

open Schema

/-- A run over properties reads no more of each than its name, types, format and reference. -/
theorem fieldsAfter_congr
    {options : RecordOptions} {taken : List RecordField} {ps qs : List (Text × Schema)}
    (same : List.Forall₂ (fun p q => p.1 = q.1 ∧ SameReading p.2 q.2) ps qs) :
    fieldsAfter options taken ps = fieldsAfter options taken qs := by
  induction same generalizing taken with
  | nil =>
      rfl
  | @cons p q ps qs first _ inductionHypothesis =>
      obtain ⟨property, schema⟩ := p
      obtain ⟨property', schema'⟩ := q
      obtain ⟨name, types, format, ref⟩ := first
      have resolution : resolveProperty property schema = resolveProperty property' schema' := by
        rw [resolveProperty, resolveProperty, show property = property' from name, types, format,
          ref]
      obtain rfl : property = property' := name
      simp only [fieldsAfter, resolution, inductionHypothesis]

/-- Schemas with the same identifier and properties that read the same declare the same class. -/
theorem ofSchema_congr
    {options : RecordOptions} {schema other : Schema}
    (distinctNames : (schema.properties.map Prod.fst).Nodup)
    (distinctNames' : (other.properties.map Prod.fst).Nodup)
    (id : schema.id = other.id)
    (names : ∀ name, name ∈ schema.properties.map Prod.fst ↔ name ∈ other.properties.map Prod.fst)
    (readings : ∀ p ∈ schema.properties, ∀ q ∈ other.properties,
      p.1 = q.1 → SameReading p.2 q.2) :
    ofSchema options schema = ofSchema options other := by
  have permuted := sortedProperties_perm schema
  have permuted' := sortedProperties_perm other
  have sortedNames : (sortedProperties schema).map Prod.fst =
      (sortedProperties other).map Prod.fst := by
    apply Text.eq_of_ascending
    · exact List.pairwise_map.mpr (sortedProperties_ascending distinctNames)
    · exact List.pairwise_map.mpr (sortedProperties_ascending distinctNames')
    · intro name
      rw [(permuted.map Prod.fst).mem_iff, (permuted'.map Prod.fst).mem_iff, names]
  have aligned : List.Forall₂ (fun p q => p.1 = q.1 ∧ SameReading p.2 q.2)
      (sortedProperties schema) (sortedProperties other) := by
    refine aligned_of_map_eq sortedNames fun p member q member' name => ⟨name, ?_⟩
    exact readings p (permuted.mem_iff.mp member) q (permuted'.mem_iff.mp member') name
  have empty : schema.properties.isEmpty = other.properties.isEmpty := by
    have lengths := congrArg List.length sortedNames
    rw [List.length_map, List.length_map, permuted.length_eq, permuted'.length_eq] at lengths
    rw [Bool.eq_iff_iff, List.isEmpty_iff_length_eq_zero, List.isEmpty_iff_length_eq_zero, lengths]
  simp only [ofSchema, empty, id, fieldsAfter_congr aligned]

end Declaration

namespace Settings

open Schema

/-! ## Generated modules -/

/-- A module depends on the identifier of its schema and on the declaration. -/
theorem emit_congr
    {s : Settings} {schema other : Schema}
    (tools : Formatter.Toolbox) (commandLine : Text)
    (id : schema.id = other.id)
    (declaration : Declaration.ofSchema s.recordOptions schema =
      Declaration.ofSchema s.recordOptions other) :
    s.emit tools commandLine schema = s.emit tools commandLine other := by
  have text : s.recordText schema = s.recordText other := by
    rw [recordText, recordText, declaration]
  have module : s.moduleText commandLine schema = s.moduleText commandLine other := by
    simp only [moduleText, text]
  simp only [emit, id, module]

/-- What a document reads as when it parses: a value that means a schema with distinct names. -/
theorem means_of_ofDocument
    {document : Json.Document} {value : Json.Value} {schema : Schema}
    (read : document.value = .ok value)
    (parsed : ofDocument document = .ok schema) :
    Means value schema ∧ (schema.properties.map Prod.fst).Nodup := by
  rw [ofDocument, read] at parsed
  have means := means_of_decodeNode value parsed
  rw [means.map_fst_properties]
  exact ⟨means, nodup_children (Json.namesOnce_of_value read)⟩

/-- Generation reads no more of a document than the identifier and the faces of the properties: two
documents that parse and agree on these give the same text or the same error. -/
theorem generate_eq_of_sameRoot
    {document other : Json.Document} {value value' : Json.Value} {schema schema' : Schema}
    (s : Settings) (tools : Formatter.Toolbox) (commandLine : Text)
    (read : document.value = .ok value)
    (read' : other.value = .ok value')
    (parsed : ofDocument document = .ok schema)
    (parsed' : ofDocument other = .ok schema')
    (same : SameRoot value value') :
    s.generate tools commandLine document = s.generate tools commandLine other := by
  obtain ⟨means, distinctNames⟩ := means_of_ofDocument read parsed
  obtain ⟨means', distinctNames'⟩ := means_of_ofDocument read' parsed'
  have id : schema.id = schema'.id := by
    rw [eq_textOf_of_denotes means.keywords.id, eq_textOf_of_denotes means'.keywords.id, same.id]
  have names (name : Text) :
      name ∈ schema.properties.map Prod.fst ↔ name ∈ schema'.properties.map Prod.fst := by
    rw [means.map_fst_properties, means'.map_fst_properties, same.names]
  have readings : ∀ p ∈ schema.properties, ∀ q ∈ schema'.properties,
      p.1 = q.1 → SameReading p.2 q.2 := by
    intro p member q member' sameName
    obtain ⟨child, inside, name, childMeans⟩ := exists_left_of_mem means.aligned member
    obtain ⟨child', inside', name', childMeans'⟩ := exists_left_of_mem means'.aligned member'
    have face := same.faces child inside child' inside' (by rw [name, name', sameName])
    exact face.sameReading childMeans childMeans'
  have declaration : Declaration.ofSchema s.recordOptions schema =
      Declaration.ofSchema s.recordOptions schema' :=
    Declaration.ofSchema_congr distinctNames distinctNames' id names readings
  have emitted := emit_congr tools commandLine id declaration
  simp only [generate, parsed, parsed', mapError_ok, bind, Except.bind, emitted]

/-- A document with two properties. -/
def pairDocument : Json.Document :=
  .text (.ofString ("\x7b\"$id\": \"pair\", \"properties\": " ++
    "\x7b\"y\": \x7b\"type\": [\"null\", \"integer\"]\x7d, \"x\": \x7b\x7d\x7d\x7d"))

/-- What it reads as. -/
def pairValue : Json.Value :=
  .obj [(.ofString "$id", .str (.ofString "pair")),
    (.ofString "properties", .obj [
      (.ofString "y", .obj [
        (.ofString "type", .arr [.str (.ofString "null"), .str (.ofString "integer")])]),
      (.ofString "x", .obj [])])]

/-- The same in another order, with a keyword that is not read. -/
def reorderedDocument : Json.Document :=
  .text (.ofString ("\x7b\"properties\": \x7b\"x\": \x7b\"minimum\": 1\x7d, " ++
    "\"y\": \x7b\"type\": [\"integer\", \"null\"]\x7d\x7d, \"$id\": \"pair\"\x7d"))

/-- What it reads as. -/
def reorderedValue : Json.Value :=
  .obj [
    (.ofString "properties", .obj [
      (.ofString "x", .obj [(.ofString "minimum", .int 1)]),
      (.ofString "y", .obj [
        (.ofString "type", .arr [.str (.ofString "integer"), .str (.ofString "null")])])]),
    (.ofString "$id", .str (.ofString "pair"))]

theorem sameRoot_pair : SameRoot pairValue reorderedValue := by
  have left : children pairValue =
      [(.ofString "y", .obj [
          (.ofString "type", .arr [.str (.ofString "null"), .str (.ofString "integer")])]),
        (.ofString "x", .obj [])] := by
    decide +kernel
  have right : children reorderedValue =
      [(.ofString "x", .obj [(.ofString "minimum", .int 1)]),
        (.ofString "y", .obj [
          (.ofString "type", .arr [.str (.ofString "integer"), .str (.ofString "null")])])] := by
    decide +kernel
  refine ⟨by decide +kernel, fun name => ?_, ?_⟩
  · rw [left, right]
    simp [or_comm]
  · rw [left, right]
    simp only [List.forall_mem_cons]
    refine ⟨⟨?_, ?_, by simp⟩, ⟨?_, ?_, by simp⟩, by simp⟩
    · exact fun same => absurd same (by decide)
    · refine fun _ => ⟨fun p => ?_, by decide +kernel, by decide +kernel⟩
      rw [declaresType_iff rfl, declaresType_iff rfl, lists_arr_iff, lists_arr_iff]
      simp [or_comm]
    · refine fun _ => ⟨fun p => ?_, by decide +kernel, by decide +kernel⟩
      exact iff_of_false (not_declaresType rfl) (not_declaresType rfl)
    · exact fun same => absurd same (by decide)

theorem generate_eq_of_sameRoot_pair :
    (∃ schema schema', ofDocument pairDocument = .ok schema ∧
      ofDocument reorderedDocument = .ok schema') ∧ SameRoot pairValue reorderedValue ∧
        ({} : Settings).generate .full [] pairDocument =
          ({} : Settings).generate .full [] reorderedDocument := by
  have read : pairDocument.value = .ok pairValue := by
    rw [pairDocument, Text.ofString_append, Text.ofString_ofList, Text.ofString_ofList]
    decide +kernel
  have read' : reorderedDocument.value = .ok reorderedValue := by
    rw [reorderedDocument, Text.ofString_append, Text.ofString_ofList, Text.ofString_ofList]
    decide +kernel
  obtain ⟨schema, parsed⟩ : ∃ schema, ofDocument pairDocument = .ok schema := by
    apply exists_ok_of_isSome
    rw [ofDocument, read]
    decide +kernel
  obtain ⟨schema', parsed'⟩ : ∃ schema, ofDocument reorderedDocument = .ok schema := by
    apply exists_ok_of_isSome
    rw [ofDocument, read']
    decide +kernel
  exact ⟨⟨schema, schema', parsed, parsed'⟩, sameRoot_pair,
    generate_eq_of_sameRoot {} .full [] read read' parsed parsed' sameRoot_pair⟩

end Settings
end RecordGen
