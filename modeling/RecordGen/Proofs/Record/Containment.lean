import RecordGen.Proofs.Name.Inert
import RecordGen.Proofs.Record.Bindings

/-!
# Containment of URIs

What a URI brings into a record text stays where it is written. The identifier gives one word of the
class line, and a reference gives one word of its annotation; nothing else in the text depends on
them.
-/

namespace RecordGen

/-- The line that opens a class, without its end. -/
def classLine (className : Text) : Text :=
  Text.ofString "class " ++ className ++ Text.ofString ":"

/-- The annotation of a property holds nothing of its reference but an inert name. -/
inductive ContainsRef (late : Bool) (p : Text × Schema) : Text → Prop
  /-- The property has a type of its own, and another reference would change nothing. -/
  | declared {type : FieldType} :
      type.isReference = false → (∀ ref, resolve p.2.types p.2.format ref = .ok type) →
        ContainsRef late p type.text
  | bare {className : Text} :
      late = true → TypeName.ofUri p.2.ref = .ok className → IsInert className →
        ContainsRef late p (className ++ Text.ofString " | None")
  | quoted {className : Text} :
      late = false → TypeName.ofUri p.2.ref = .ok className → IsInert className →
        ContainsRef late p
          (Source.doubleQuote :: className ++ Text.ofString " | None" ++ [Source.doubleQuote])

/-- In a record text in its parts, the identifier and the references of the schema stay inside the
words that they are written to. -/
structure ModuleParts.Contains (parts : ModuleParts) (options : RecordOptions) (schema : Schema) :
    Prop where
  named : TypeName.ofUri schema.id = .ok parts.className
  /-- Nothing but the lines of the imports and of the decorator stands before the class line. -/
  front : parts.header = [] ∧ ∀ m ∈ parts.imports, IsWord m
  /-- The class line starts and ends with a line of the text. -/
  line : ∃ before, before.getLast? = some CodePoint.lineFeed ∧
    parts.text = before ++ (classLine parts.className).line ++ parts.entries.flatMap entryLine
  /-- No reader of lines ends a line inside the class line. -/
  whole : ∀ c ∈ classLine parts.className, Unicode.isLineBreak c = false
  annotations : List.Forall₂
    (fun p entry => entry.1 = Declaration.fieldName options p.1 ∧
      ContainsRef options.lateAnnotations p entry.2)
    (Declaration.sortedProperties schema) parts.entries

/-! ## Annotations -/

/-- A type that is no reference does not come from one. -/
theorem resolve_eq_of_isReference_eq_false
    {types : TypeSet} {format : Option StringFormat} {ref : Text} {type : FieldType}
    (resolved : resolve types format ref = .ok type)
    (own : type.isReference = false)
    (other : Text) :
    resolve types format other = .ok type := by
  unfold resolve at resolved ⊢
  by_cases textual : types.contains .string = true
  · rwa [if_pos textual] at resolved ⊢
  · rw [if_neg textual] at resolved ⊢
    cases single : types.fieldType? with
    | some declared =>
        rwa [single] at resolved
    | none =>
        simp only [single] at resolved
        split at resolved
        · cases resolved
        · split at resolved
          · cases resolved
            cases own
          · cases resolved

namespace Declaration

variable {options : RecordOptions} {schema : Schema} {d : Declaration}

theorem annotationText_reference (className : Text) :
    annotationText options (.reference className) =
      if options.lateAnnotations then className ++ Text.ofString " | None"
      else Source.doubleQuote :: className ++ Text.ofString " | None" ++ [Source.doubleQuote] := by
  have mark : Text.ofString "\"" = [Source.doubleQuote] := rfl
  cases late : options.lateAnnotations <;>
    simp [annotationText, FieldType.isReference, FieldType.text, late, mark]

theorem annotationText_of_isReference_eq_false
    {type : FieldType}
    (own : type.isReference = false) :
    annotationText options type = type.text := by
  simp [annotationText, own]

theorem containsRef_of_isField
    {p : Text × Schema} {field : RecordField}
    (isField : IsField options p field) :
    ContainsRef options.lateAnnotations p (annotationText options field.type) := by
  have resolved := isField.type
  cases type : field.type with
  | reference className =>
      rw [type] at resolved
      have named := ofUri_of_resolve_eq_reference resolved
      have inert := TypeName.isInert_of_ofUri named
      rw [annotationText_reference]
      cases late : options.lateAnnotations with
      | true => exact .bare rfl named inert
      | false => exact .quoted rfl named inert
  | builtin b =>
      rw [type] at resolved
      rw [annotationText_of_isReference_eq_false rfl]
      exact .declared rfl (resolve_eq_of_isReference_eq_false resolved rfl)
  | standard t =>
      rw [type] at resolved
      rw [annotationText_of_isReference_eq_false rfl]
      exact .declared rfl (resolve_eq_of_isReference_eq_false resolved rfl)

/-! ## Record texts -/

/-- The class line of a module without a header starts and ends with a line. -/
theorem exists_text_eq_classLine
    {parts : ModuleParts}
    (headless : parts.header = []) :
    ∃ before, before.getLast? = some CodePoint.lineFeed ∧
      parts.text = before ++ (classLine parts.className).line ++
        parts.entries.flatMap ModuleParts.entryLine := by
  have split : decoratorLines =
      Text.line (.ofString "from dataclasses import dataclass\n\n\n@dataclass") ++
        Text.ofString "class " := by
    decide
  have ending : Text.ofString ":\n" = Text.ofString ":" ++ [CodePoint.lineFeed] := rfl
  refine ⟨parts.imports.flatMap (fun m => Text.ofString "import " ++ m ++ Text.ofString "\n") ++
    Text.line (.ofString "from dataclasses import dataclass\n\n\n@dataclass"), ?_, ?_⟩
  · rw [Text.line, ← List.append_assoc, List.getLast?_append, List.getLast?_singleton,
      Option.some_or]
  · rw [ModuleParts.text, headless, split, ending]
    simp only [List.isEmpty_nil, ↓reduceIte, List.nil_append, classLine, Text.line,
      List.append_assoc]

/-- The parts of a declaration contain its URIs. -/
theorem contains_parts (declared : ofSchema options schema = .ok d) :
    (d.parts options []).Contains options schema := by
  obtain ⟨-, named, aligned, -⟩ := ofSchema_eq_ok_iff.mp declared
  have inert := TypeName.isInert_of_ofUri named
  have fixed : (Text.ofString "class " ++ Text.ofString ":").all
      (fun c => !Unicode.isLineBreak c) = true := by
    decide
  constructor
  · exact named
  · exact ⟨rfl, fun m member => (((binds_parts [] declared).needed m).mp member).1⟩
  · exact exists_text_eq_classLine rfl
  · intro c member
    simp only [classLine, parts, List.mem_append] at member
    rcases member with (before | own) | behind
    · simpa using List.all_eq_true.mp fixed c (List.mem_append_left _ before)
    · exact inert.lineBreak c own
    · simpa using List.all_eq_true.mp fixed c (List.mem_append_right _ behind)
  · simp only [parts, List.forall₂_map_right_iff]
    exact aligned.imp fun p field isField => ⟨isField.name, containsRef_of_isField isField⟩

end Declaration

/-- A URI cannot bring code into a record text. The name of every URI is inert, whatever the URI
holds, and in the text of every schema the identifier and the references stay inside the words that
they are written to. -/
theorem Settings.recordText_contains_uris :
    (∀ uri name, TypeName.ofUri uri = .ok name → IsInert name) ∧
      ∀ (s : Settings) (schema : Schema) (text : Text), s.recordText schema = .ok text →
        ∃ parts : ModuleParts, text = parts.text ∧ parts.Contains s.recordOptions schema := by
  refine ⟨fun uri name named => TypeName.isInert_of_ofUri named, fun s schema text written => ?_⟩
  obtain ⟨d, declared, rfl⟩ := map_eq_ok.mp written
  exact ⟨_, (Declaration.text_parts [] d).symm, Declaration.contains_parts declared⟩

/-- A schema whose identifier and reference spell the end of what they are written into. -/
def quotingSchema : Schema :=
  { id := .ofString "https://example.com/x\"):\u2028pass \\",
    properties := [(.ofString "next", { ref := .ofString "y\" | None\u2028import os" })] }

theorem Settings.recordText_contains_uris_quoting :
    TypeName.ofUri quotingSchema.id = .ok (.ofString "XPass") ∧ IsInert (.ofString "XPass") ∧
      ∃ text, ({} : Settings).recordText quotingSchema = .ok text ∧
        ∃ parts : ModuleParts, text = parts.text ∧
          parts.Contains ({} : Settings).recordOptions quotingSchema := by
  have named : TypeName.ofUri quotingSchema.id = .ok (.ofString "XPass") := by
    decide +kernel
  have declares : Declaration.Declares ({} : Settings).recordOptions quotingSchema := by
    refine ⟨by decide, ⟨_, named⟩, fun p member => ?_, by decide⟩
    rw [List.mem_singleton.mp member]
    exact ⟨.reference (.ofString "YNoneImportOs"), by decide +kernel⟩
  obtain ⟨d, declared⟩ := Declaration.exists_ofSchema_iff.mpr declares
  have written : ({} : Settings).recordText quotingSchema =
      .ok (d.text ({} : Settings).recordOptions) := map_eq_ok.mpr ⟨d, declared, rfl⟩
  exact ⟨named, recordText_contains_uris.1 _ _ named, _, written,
    recordText_contains_uris.2 _ _ _ written⟩

end RecordGen
