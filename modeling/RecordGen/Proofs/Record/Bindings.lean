import RecordGen.Proofs.Record.Declaration
import RecordGen.Proofs.Text.Pieces

/-!
# Names that annotations use

Every name that an annotation of a generated module evaluates is bound: it is a builtin name, or a
module of the import block stands before it, or the annotation is a reference that is quoted unless
the header switches evaluation off. Nothing else is imported. This is said of the written parts, so
the import block and the annotations are compared as texts.
-/

namespace RecordGen

/-! ## Parts of a module -/

/-- One ASCII letter or digit or more. -/
def IsWord (t : Text) : Prop :=
  t ≠ [] ∧ t.all (fun c => c.isAsciiLetter || c.isAsciiDigit) = true

instance (t : Text) : Decidable (IsWord t) := inferInstanceAs (Decidable (_ ∧ _))

/-- A name in a module: two words with a point between them. -/
def qualified (module name : Text) : Text := module ++ Text.ofString "." ++ name

/-- The builtin names that annotations use. -/
def builtinNames : List Text :=
  ["str", "int", "float", "bool", "list", "object"].map Text.ofString

structure ModuleParts where
  header : Text
  imports : List Text
  className : Text
  /-- The field names with their annotations. -/
  entries : List (Text × Text)

namespace ModuleParts

/-- The line of a field name and its annotation. -/
def entryLine (entry : Text × Text) : Text :=
  Text.ofString "    " ++ entry.1 ++ Text.ofString ": " ++ entry.2 ++ Text.ofString "\n"

/-- The module as a text. A blank line follows the header, if there is one. -/
def text (parts : ModuleParts) : Text :=
  (if parts.header.isEmpty then [] else parts.header ++ Text.ofString "\n") ++
    parts.imports.flatMap (fun m => Text.ofString "import " ++ m ++ Text.ofString "\n") ++
    Declaration.decoratorLines ++ parts.className ++ Text.ofString ":\n" ++
    parts.entries.flatMap entryLine

/-- The header has the line that switches the evaluation of annotations off. -/
def IsLate (parts : ModuleParts) : Prop :=
  lateAnnotationLine ∈ parts.header.pieces CodePoint.lineFeed

end ModuleParts

/-- The annotation of a property, given the import block and whether annotations are not
evaluated. -/
inductive IsAnnotation (imports : List Text) (late : Prop) (p : Text × Schema) : Text → Prop
  | builtin {name : Text} :
      name ∈ builtinNames → IsAnnotation imports late p name
  | imported {module name : Text} :
      module ∈ imports → IsWord name → IsAnnotation imports late p (qualified module name)
  | bare {className : Text} :
      late → TypeName.ofUri p.2.ref = .ok className →
        IsAnnotation imports late p (className ++ Text.ofString " | None")
  | quoted {className : Text} :
      ¬ late → TypeName.ofUri p.2.ref = .ok className →
        IsAnnotation imports late p
          (Text.ofString "\"" ++ className ++ Text.ofString " | None\"")

/-- The parts of a module agree: the import block ascends and lists the modules in the annotations,
and there is an annotation for each property, ascending by name. -/
structure ModuleParts.Binds (parts : ModuleParts) (options : RecordOptions) (late : Prop)
    (schema : Schema) : Prop where
  named : TypeName.ofUri schema.id = .ok parts.className
  ascending : parts.imports.Pairwise (· < ·)
  needed : ∀ module, module ∈ parts.imports ↔
    IsWord module ∧ ∃ entry ∈ parts.entries, ∃ name, IsWord name ∧ entry.2 = qualified module name
  annotations : List.Forall₂
    (fun p entry => entry.1 = Declaration.fieldName options p.1 ∧
      IsAnnotation parts.imports late p entry.2)
    (Declaration.sortedProperties schema) parts.entries

/-! ## Words -/

theorem not_mem_of_isWord
    {t : Text} {c : CodePoint}
    (word : IsWord t)
    (other : (c.isAsciiLetter || c.isAsciiDigit) = false) :
    c ∉ t := by
  intro member
  rw [List.all_eq_true.mp word.2 c member] at other
  cases other

theorem point_not_mem_of_isWord {t : Text} (word : IsWord t) : CodePoint.ofChar '.' ∉ t :=
  not_mem_of_isWord word (by decide)

theorem space_not_mem_of_isWord {t : Text} (word : IsWord t) : CodePoint.space ∉ t :=
  not_mem_of_isWord word (by decide)

theorem StandardType.isWord_module (type : StandardType) : IsWord type.module := by
  cases type <;> decide

theorem StandardType.isWord_name (type : StandardType) : IsWord type.name := by
  cases type <;> decide

theorem qualified_eq (module name : Text) :
    qualified module name = module ++ CodePoint.ofChar '.' :: name := by
  rw [qualified, List.append_assoc]
  rfl

/-- A qualified name of two words is taken apart at its point. -/
theorem qualified_inj
    {module module' name name' : Text}
    (word : IsWord module)
    (word' : IsWord name) :
    qualified module name = qualified module' name' ↔ module = module' ∧ name = name' := by
  rw [qualified_eq, qualified_eq,
    List.append_cons_inj_of_notMem (point_not_mem_of_isWord word) (point_not_mem_of_isWord word')]
  simp

theorem point_mem_qualified (module name : Text) :
    CodePoint.ofChar '.' ∈ qualified module name := by
  simp [qualified_eq]

theorem space_not_mem_qualified
    {module name : Text}
    (word : IsWord module)
    (word' : IsWord name) :
    CodePoint.space ∉ qualified module name := by
  rw [qualified_eq, List.mem_append, List.mem_cons, not_or, not_or]
  exact ⟨space_not_mem_of_isWord word, by decide, space_not_mem_of_isWord word'⟩

/-! ## Annotations -/

/-- Only a property without a type of its own is annotated with a reference. -/
theorem ofUri_of_resolve_eq_reference
    {types : TypeSet} {format : Option StringFormat} {ref className : Text}
    (resolved : resolve types format ref = .ok (.reference className)) :
    TypeName.ofUri ref = .ok className := by
  unfold resolve at resolved
  split at resolved
  · have typed := Except.ok.inj resolved
    cases format with
    | none => cases typed
    | some f => cases f <;> cases typed
  · split at resolved
    · rename_i type found
      obtain ⟨p, -, single⟩ := List.exists_of_findSome?_eq_some found
      rw [Except.ok.inj resolved] at single
      split at single
      · cases p <;> cases single
      · cases single
    · split at resolved
      · cases resolved
      · split at resolved
        · rename_i named
          cases resolved
          exact named
        · cases resolved

theorem mark_not_mem_of_isWord {t : Text} (word : IsWord t) : CodePoint.ofChar '"' ∉ t :=
  not_mem_of_isWord word (by decide)

/-- Only a quoted reference ends in a quotation mark. -/
theorem IsAnnotation.not_late
    {imports : List Text} {late : Prop} {p : Text × Schema} {t : Text}
    (written : IsAnnotation imports late p t)
    (ending : t.getLast? = some (CodePoint.ofChar '"')) :
    ¬ late := by
  cases written with
  | builtin member =>
      have free : ∀ name ∈ builtinNames, name.getLast? ≠ some (CodePoint.ofChar '"') := by decide
      exact absurd ending (free t member)
  | @imported module name listed word =>
      rw [qualified_eq, List.getLast?_append, List.getLast?_cons, Option.some_or] at ending
      have last : CodePoint.ofChar '"' ∈ CodePoint.ofChar '.' :: name := by
        refine List.mem_of_getLast? ?_
        rw [List.getLast?_cons]
        exact ending
      rcases List.mem_cons.mp last with point | member
      · exact absurd point (by decide)
      · exact absurd member (mark_not_mem_of_isWord word)
  | bare isLate named =>
      have bareEnding : (Text.ofString " | None").getLast? = some (CodePoint.ofChar 'e') := by decide
      rw [List.getLast?_append, bareEnding, Option.some_or] at ending
      exact absurd ending (by decide)
  | quoted notLate named => exact notLate

namespace Declaration

variable {options : RecordOptions}

/-- The annotation as written is a qualified name exactly for a type of a standard module. -/
theorem annotationText_eq_qualified_iff
    {type : FieldType} {module name : Text}
    (word : IsWord module)
    (word' : IsWord name) :
    annotationText options type = qualified module name ↔
      ∃ t, type = .standard t ∧ t.module = module ∧ t.name = name := by
  cases type with
  | builtin b =>
      have unqualified : annotationText options (.builtin b) ≠ qualified module name := by
        intro same
        have written : annotationText options (.builtin b) = b.name := rfl
        have point := point_mem_qualified module name
        rw [← same, written] at point
        exact absurd point (by cases b <;> decide)
      simp [unqualified]
  | standard t =>
      have written : annotationText options (.standard t) = qualified t.module t.name := rfl
      rw [written, qualified_inj t.isWord_module t.isWord_name]
      simp
  | reference className =>
      have unqualified : annotationText options (.reference className) ≠ qualified module name := by
        intro same
        have spaced : CodePoint.space ∈ annotationText options (.reference className) := by
          have marked : CodePoint.space ∈ Text.ofString " | None" := by decide
          simp only [annotationText]
          split <;> simp [FieldType.text, marked]
        rw [same] at spaced
        exact space_not_mem_qualified word word' spaced
      simp [unqualified]

/-- The annotation of a field has one of the four forms, if its module is imported. -/
theorem isAnnotation_of_isField
    {imports : List Text} {p : Text × Schema} {field : RecordField}
    (isField : IsField options p field)
    (listed : ∀ m, field.type.module? = some m → m ∈ imports) :
    IsAnnotation imports (options.lateAnnotations = true) p
      (annotationText options field.type) := by
  have resolved := isField.type
  cases type : field.type with
  | builtin b =>
      have written : annotationText options (.builtin b) = b.name := rfl
      rw [written]
      exact .builtin (by cases b <;> decide)
  | standard t =>
      rw [type] at listed
      exact .imported (listed t.module rfl) t.isWord_name
  | reference className =>
      rw [type] at resolved
      have named := ofUri_of_resolve_eq_reference resolved
      by_cases late : options.lateAnnotations = true
      · have written : annotationText options (.reference className) =
            className ++ Text.ofString " | None" := by
          simp [annotationText, late, FieldType.text]
        rw [written]
        exact .bare late named
      · have written : annotationText options (.reference className) =
            Text.ofString "\"" ++ className ++ Text.ofString " | None\"" := by
          have ending : Text.ofString " | None\"" = Text.ofString " | None" ++ Text.ofString "\"" :=
            rfl
          rw [ending]
          simp [annotationText, late, FieldType.text, FieldType.isReference]
        rw [written]
        exact .quoted late named

def parts (options : RecordOptions) (header : Text) (d : Declaration) : ModuleParts :=
  ⟨header, d.modules, d.className, d.fields.map fun field =>
    (field.name, annotationText options field.type)⟩

theorem text_parts
    (header : Text) (d : Declaration) :
    (d.parts options header).text =
      (if header.isEmpty then [] else header ++ Text.ofString "\n") ++ d.text options := by
  have lines : (d.fields.map fun field => (field.name, annotationText options field.type)).flatMap
      ModuleParts.entryLine = d.fields.flatMap (fieldLine options) := by
    rw [List.flatMap_map]
    rfl
  rw [text_eq]
  simp only [parts, ModuleParts.text, lines, List.append_assoc]
  rfl

/-- The parts of a declaration agree. -/
theorem binds_parts
    {schema : Schema} {d : Declaration}
    (header : Text)
    (declared : ofSchema options schema = .ok d) :
    (d.parts options header).Binds options (options.lateAnnotations = true) schema := by
  obtain ⟨-, named, aligned, -⟩ := ofSchema_eq_ok_iff.mp declared
  refine ⟨named, modules_ascending d, fun module => ?_, ?_⟩
  · have listed : module ∈ d.modules ↔ ∃ field ∈ d.fields, field.type.module? = some module :=
      mem_modules_iff
    simp only [parts, listed, List.mem_map, exists_exists_and_eq_and]
    constructor
    · rintro ⟨field, member, needed⟩
      cases type : field.type with
      | standard t =>
          rw [type] at needed
          obtain rfl := Option.some.inj needed
          exact ⟨t.isWord_module, field, member, t.name, t.isWord_name, by rw [type]; rfl⟩
      | _ =>
          rw [type] at needed
          cases needed
    · rintro ⟨word, field, member, name, word', written⟩
      obtain ⟨t, type, rfl, -⟩ := (annotationText_eq_qualified_iff word word').mp written
      exact ⟨field, member, by rw [type]; rfl⟩
  · simp only [parts, List.forall₂_map_right_iff]
    have listed : ∀ field ∈ d.fields, ∀ m, field.type.module? = some m → m ∈ d.modules :=
      fun field member m needed => mem_modules_iff.mpr ⟨field, member, needed⟩
    have both := (List.forall₂_and_left d.fields _).mpr ⟨listed, aligned.flip⟩
    exact both.flip.imp fun p field member =>
      ⟨member.2.name, isAnnotation_of_isField member.2 member.1⟩

end Declaration

/-! ## The header -/

namespace Settings

def commentStart : Text := .ofString "# Generated by json_schema_to_struct v0.1.0 : "

/-- The lines of a comment are its first one and those that the command line itself breaks into. -/
theorem late_mem_pieces_comment_iff (commandLine : Text) :
    lateAnnotationLine ∈ (commentStart ++ commandLine).pieces CodePoint.lineFeed ↔
      lateAnnotationLine ∈ (commandLine.pieces CodePoint.lineFeed).tail := by
  have free : CodePoint.lineFeed ∉ commentStart := by decide
  obtain ⟨first, rest, spelled, joined⟩ := Text.pieces_append_of_not_mem free commandLine
  have different : lateAnnotationLine ≠ commentStart ++ first := by
    intro same
    have heads := congrArg List.head? same
    have start : commentStart.head? = some (CodePoint.ofChar '#') := by decide
    rw [List.head?_append, start, Option.some_or] at heads
    exact absurd heads (by decide)
  rw [joined, spelled, List.mem_cons, List.tail_cons]
  simp [different]

/-- The header: the comment, the line that switches evaluation off, and a blank line between. -/
theorem preamble_eq (s : Settings) (commandLine : Text) :
    s.preamble commandLine =
      (if s.addGenerationComment.isTruthy then Text.line (commentStart ++ commandLine) else []) ++
        (if s.addGenerationComment.isTruthy && s.useFutureAnnotations.isTruthy then
          [CodePoint.lineFeed] else []) ++
          (if s.useFutureAnnotations.isTruthy then Text.line lateAnnotationLine else []) := by
  have start : commentStart = Text.ofString "# " ++ (Text.ofString "Generated by " ++
      programName ++ Text.ofString " v0.1.0 : ") := by
    decide
  rw [start]
  cases late : s.useFutureAnnotations.isTruthy <;>
    cases commented : s.addGenerationComment.isTruthy <;>
      simp [preamble, generationComment, late, commented, Text.line]

/-- The header has the line that switches evaluation off when the settings ask for it, and else
only if the command line in its comment spells it on a line of its own. -/
theorem late_mem_pieces_preamble_iff
    (s : Settings) (commandLine : Text) :
    lateAnnotationLine ∈ (s.preamble commandLine).pieces CodePoint.lineFeed ↔
      s.useFutureAnnotations.isTruthy = true ∨
        s.addGenerationComment.isTruthy = true ∧
          lateAnnotationLine ∈ (commandLine.pieces CodePoint.lineFeed).tail := by
  have own : lateAnnotationLine.pieces CodePoint.lineFeed = [lateAnnotationLine] := by decide
  have nonempty : lateAnnotationLine ≠ [] := by decide
  have ending (t : Text) : (Text.line t).pieces CodePoint.lineFeed =
      t.pieces CodePoint.lineFeed ++ [[]] :=
    Text.pieces_append_mark CodePoint.lineFeed t []
  have joined (t u : Text) : (Text.line t ++ u).pieces CodePoint.lineFeed =
      t.pieces CodePoint.lineFeed ++ u.pieces CodePoint.lineFeed := by
    rw [Text.line, List.append_assoc]
    exact Text.pieces_append_mark CodePoint.lineFeed t u
  rw [preamble_eq]
  cases late : s.useFutureAnnotations.isTruthy <;>
    cases commented : s.addGenerationComment.isTruthy
  · simp [Text.pieces, nonempty]
  · simp [ending, late_mem_pieces_comment_iff, nonempty]
  · simp [ending, own]
  · have blank (u : Text) : Text.pieces CodePoint.lineFeed (CodePoint.lineFeed :: u) =
        [] :: u.pieces CodePoint.lineFeed :=
      Text.pieces_append_mark CodePoint.lineFeed [] u
    simp [joined, blank, ending, own]

/-! ## Generated modules -/

/-- A module that is not formatted is its header and the text of the declaration. -/
theorem exists_declaration_of_emit
    {s : Settings} {tools : Formatter.Toolbox} {commandLine : Text} {schema : Schema} {code : Text}
    (named : schema.id ≠ [])
    (unformatted : ∀ options, s.formatter = .options options → options.enabled.isTruthy = false)
    (emitted : s.emit tools commandLine schema = .ok code) :
    ∃ d, Declaration.ofSchema s.recordOptions schema = .ok d ∧
      code = (if (s.preamble commandLine).isEmpty then []
        else s.preamble commandLine ++ Text.ofString "\n") ++ d.text s.recordOptions := by
  have identified : schema.id.isEmpty = false := by simpa using named
  rw [emit, identified] at emitted
  obtain ⟨text, module, formatted⟩ := bind_eq_ok.mp emitted
  obtain ⟨options, present, run⟩ := bind_eq_ok.mp formatted
  have required : s.formatterFor "enabled" = .ok options := mapError_eq_ok.mp present
  have disabled : options.enabled.isTruthy = false := by
    apply unformatted
    cases group : s.formatter with
    | options given =>
        rw [formatterFor, group] at required
        rw [Except.ok.inj required]
    | _ =>
        rw [formatterFor, group] at required
        cases required
  rw [disabled] at run
  cases run
  obtain ⟨body, recorded, last⟩ := bind_eq_ok.mp module
  obtain ⟨d, declared, rfl⟩ := map_eq_ok.mp recorded
  cases last
  refine ⟨d, declared, ?_⟩
  cases empty : (s.preamble commandLine).isEmpty
  · simp only [Bool.false_eq_true, ↓reduceIte, List.append_assoc]
    rfl
  · rfl

/-- Every name that an annotation of a generated module evaluates is bound, and nothing else is
imported. References are bare exactly under the header's line that switches evaluation off; a
command line cannot be mistaken for it unless it spells that line itself. -/
theorem emit_binds_annotations
    {s : Settings} {tools : Formatter.Toolbox} {commandLine : Text} {schema : Schema} {code : Text}
    (named : schema.id ≠ [])
    (unformatted : ∀ options, s.formatter = .options options → options.enabled.isTruthy = false)
    (emitted : s.emit tools commandLine schema = .ok code) :
    ∃ parts : ModuleParts, code = parts.text ∧ parts.header = s.preamble commandLine ∧
      parts.Binds s.recordOptions (s.useFutureAnnotations.isTruthy = true) schema ∧
        (lateAnnotationLine ∉ (commandLine.pieces CodePoint.lineFeed).tail →
          parts.Binds s.recordOptions parts.IsLate schema) := by
  obtain ⟨d, declared, rfl⟩ := exists_declaration_of_emit named unformatted emitted
  have binds := Declaration.binds_parts (s.preamble commandLine) declared
  refine ⟨_, (Declaration.text_parts _ d).symm, rfl, binds, fun unspelled => ?_⟩
  have late : (d.parts s.recordOptions (s.preamble commandLine)).IsLate ↔
      s.useFutureAnnotations.isTruthy = true := by
    rw [ModuleParts.IsLate, Declaration.parts, late_mem_pieces_preamble_iff]
    simp [unspelled]
  rwa [propext late]

/-- A schema with a type of a standard module and a reference. -/
def eventSchema : Schema :=
  { id := .ofString "event",
    properties := [(.ofString "place", { ref := .ofString "place" }),
      (.ofString "day", { types := .single .string, format := some .date })] }

/-- Settings without a formatter. -/
def plainSettings : Settings := { formatter := .options { enabled := .bool false } }

theorem emit_binds_annotations_event :
    ∃ code, plainSettings.emit .full programName eventSchema = .ok code ∧
      ∃ parts : ModuleParts, code = parts.text ∧
        parts.Binds plainSettings.recordOptions parts.IsLate eventSchema := by
  have declares : Declaration.Declares plainSettings.recordOptions eventSchema := by
    refine ⟨by decide, ⟨.ofString "Event", by rfl⟩, fun p member => ?_, by decide⟩
    simp only [eventSchema, List.mem_cons, List.not_mem_nil, or_false] at member
    rcases member with rfl | rfl
    · exact ⟨.reference (.ofString "Place"), by rfl⟩
    · exact ⟨.standard .date, by rfl⟩
  obtain ⟨d, declared⟩ := Declaration.exists_ofSchema_iff.mpr declares
  obtain ⟨code, emitted⟩ : ∃ code, plainSettings.emit .full programName eventSchema = .ok code := by
    apply exists_ok_of_isSome
    rw [emit, moduleText, recordText, declared]
    rfl
  have unformatted : ∀ options, plainSettings.formatter = .options options →
      options.enabled.isTruthy = false := by
    rintro options ⟨⟩
    rfl
  obtain ⟨parts, written, -, -, binds⟩ :=
    emit_binds_annotations (by decide) unformatted emitted
  exact ⟨code, emitted, parts, written, binds (by decide)⟩

/-- A command whose settings file spells the line that switches evaluation off in its name. -/
def spellingCommand : Json.Members :=
  [(.ofString "config", .str (.ofString "/data/c\nfrom __future__ import annotations")),
    (.ofString "path", .str (.ofString "/data/event.json"))]

/-- Settings that leave that line out. -/
def evaluatedSettings : Settings := { plainSettings with useFutureAnnotations := .bool false }

def placeSchema : Schema :=
  { id := .ofString "event", properties := [(.ofString "place", { ref := .ofString "place" })] }

/-- The parts of a module with that command in its comment. -/
def spelledParts : ModuleParts where
  header := evaluatedSettings.preamble (CommandLine.shown spellingCommand)
  imports := []
  className := .ofString "Event"
  entries := [(.ofString "place", .ofString "\"Place | None\"")]

/-- The name of a file brings the line that switches evaluation off into a header, though the settings
leave it out, and the references are quoted nevertheless. -/
theorem emit_quotes_under_spelled_line :
    evaluatedSettings.emit .full (CommandLine.shown spellingCommand) placeSchema =
        .ok spelledParts.text ∧
      spelledParts.header = evaluatedSettings.preamble (CommandLine.shown spellingCommand) ∧
      spelledParts.IsLate ∧
      ¬ spelledParts.Binds evaluatedSettings.recordOptions spelledParts.IsLate placeSchema := by
  have emitted : (evaluatedSettings.emit .full (CommandLine.shown spellingCommand)
      placeSchema).toOption = some spelledParts.text := by
    decide +kernel
  have late : spelledParts.IsLate := by
    rw [ModuleParts.IsLate]
    decide +kernel
  refine ⟨?_, rfl, late, fun binds => ?_⟩
  · obtain ⟨code, made⟩ := exists_ok_of_isSome (by rw [emitted]; rfl)
    rw [made] at emitted ⊢
    exact congrArg Except.ok (Option.some.inj emitted)
  · have sorted : Declaration.sortedProperties placeSchema = placeSchema.properties :=
      List.mergeSort_singleton _
    have annotations := binds.annotations
    rw [sorted] at annotations
    obtain ⟨-, written⟩ := (List.forall₂_cons.mp annotations).1
    exact written.not_late (by decide) late

end Settings
end RecordGen
