import RecordGen.Proofs.Record.ModuleLayout
import RecordGen.Proofs.Record.References

/-!
# Generated modules in canonical form

The text of a module needs no formatting: what the layout formatter makes of it is the text itself, if
the names are identifiers, no line is too long, and no reference is a number in another spelling than
the one that a layout gives it.
-/

namespace RecordGen

open Source Source.Grammar

/-! ## Layouts that change nothing -/

namespace Source

variable {t text : Text} {laid : LayoutOptions} {tree : Tree}

theorem lineBreakOf_of_not_mem
    (free : CodePoint.carriageReturn ∉ t) :
    lineBreakOf t = [CodePoint.lineFeed] := by
  induction t with
  | nil => rfl
  | cons c rest inductionHypothesis =>
      obtain ⟨different, others⟩ := not_or.mp (mt List.mem_cons.mpr free)
      rw [lineBreakOf, inductionHypothesis others, if_neg (Ne.symm different), ite_self]

theorem withLineBreaks_lineFeed (t : Text) : withLineBreaks [CodePoint.lineFeed] t = t := by
  have own (c : CodePoint) :
      (if c = CodePoint.lineFeed then [CodePoint.lineFeed] else [c]) = [c] := by
    split_ifs with same
    · rw [same]
    · rfl
  rw [withLineBreaks, funext own, List.flatMap_singleton']

theorem layoutOnce?_of_layout
    (start : trimStart t = t)
    (nonempty : t ≠ [])
    (layout : ∀ tree, tree? t = some tree → tree.layout laid = t)
    (passed : layoutOnce? laid t = some text) :
    text = t := by
  obtain ⟨tree, readable, rest⟩ := Option.bind_eq_some_iff.mp passed
  have found : tree? t = some tree := by
    rw [readable?, start, Option.filter_eq_some_iff] at readable
    exact readable.1
  rw [layout tree found] at rest
  cases t with
  | nil => exact absurd rfl nonempty
  | cons c others => exact (Option.some.inj rest).symm

/-- A text that is the layout of its tree is laid out as it is. -/
theorem eq_of_layout
    (free : CodePoint.carriageReturn ∉ t)
    (start : trimStart t = t)
    (nonempty : t ≠ [])
    (layout : ∀ tree, tree? t = some tree → tree.layout laid = t)
    (formatted : layout? laid t = some text) :
    text = t := by
  rw [layout?, Text.unifyLineBreaks_of_not_mem free, lineBreakOf_of_not_mem free] at formatted
  obtain ⟨first, once, rest⟩ := Option.bind_eq_some_iff.mp formatted
  obtain rfl := layoutOnce?_of_layout start nonempty layout once
  have last : some (withLineBreaks [CodePoint.lineFeed] first) = some text := by simpa using rest
  rw [withLineBreaks_lineFeed] at last
  exact (Option.some.inj last).symm

end Source

/-- What the layout formatter returns is a layout with lines as long as it is told. -/
theorem Formatter.exists_layout_of_run
    {tools : Toolbox} {code text : Text} {s : FormatterSettings}
    (ran : run tools .black code s = .ok text) :
    ∃ laid : LayoutOptions, integerOption s.lineLength = .ok laid.lineLength ∧
      layout? laid code = some text := by
  simp only [run, layOut] at ran
  split at ran
  · cases ran
  · split at ran
    · cases ran
    · obtain ⟨laid, chosen, formatted⟩ := bind_eq_ok.mp ran
      obtain ⟨target, -, widths⟩ := bind_eq_ok.mp chosen
      obtain ⟨lineLength, width, strings⟩ := bind_eq_ok.mp widths
      obtain ⟨normalizesStrings, -, commas⟩ := bind_eq_ok.mp strings
      obtain ⟨heedsCommas, -, last⟩ := bind_eq_ok.mp commas
      cases last
      refine ⟨⟨lineLength, normalizesStrings, heedsCommas, target⟩, width, ?_⟩
      split at formatted
      · rename_i laidOut found
        cases formatted
        exact found
      · cases formatted

/-! ## The start of a module -/

namespace Declaration

/-- A module starts with a comment or a word. -/
theorem exists_start_moduleCode
    {comment : Text}
    (start : comment = [] ∨ ∃ rest, comment = commentMark :: rest)
    (options : RecordOptions)
    (d : Declaration) :
    ∃ c rest, moduleCode comment options d = c :: rest ∧ Unicode.isBlank c = false := by
  rw [moduleCode_eq]
  rcases start with rfl | ⟨rest, rfl⟩
  · by_cases late : options.lateAnnotations = true
    · have word : wordLine lateWords = CodePoint.ofChar 'f' :: (wordLine lateWords).tail := by decide
      rw [lateImports, if_pos late, List.flatMap_singleton, word]
      exact ⟨_, _, rfl, by decide⟩
    · obtain ⟨words, imports, spelled⟩ := List.exists_cons_of_ne_nil (importWords_ne_nil d)
      have isImport : IsImport words :=
        isImport_of_mem_importWords (d := d) (by rw [spelled]; exact List.mem_cons_self)
      rw [lateImports, lateBlank, if_neg late, if_neg late, spelled]
      cases isImport with
      | module => exact ⟨CodePoint.ofChar 'i', _, rfl, by decide⟩
      | name => exact ⟨CodePoint.ofChar 'f', _, rfl, by decide⟩
  · exact ⟨_, _, rfl, by decide⟩

end Declaration

namespace Settings

variable {s : Settings} {tools : Formatter.Toolbox} {schema : Schema} {options : FormatterSettings}
  {d : Declaration} {code text : Text}

/-! ## The comment -/

theorem commentLines_eq (s : Settings) :
    s.commentLines programName = [] ∨ s.commentLines programName =
      commentStart ++ programName ++ [CodePoint.lineFeed, CodePoint.lineFeed] := by
  by_cases commented : s.addGenerationComment.isTruthy = true
  · exact .inr (by simp [commentLines, commented, Text.line])
  · exact .inl (by rw [commentLines, if_neg commented])

theorem isTidy_commentLines (s : Settings) : IsTidy (s.commentLines programName) := by
  rcases s.commentLines_eq with empty | commented
  · rw [empty]
    exact isTidy_nil
  · rw [commented, commentStart, programName, Text.ofString_ofList, Text.ofString_ofList]
    exact ⟨by decide +kernel, by decide +kernel, by decide +kernel,
      by unfold HasNoSwitch; decide +kernel, by decide +kernel⟩

theorem isHeading_commentLines (s : Settings) :
    Declaration.IsHeading (s.commentLines programName) := by
  rcases s.commentLines_eq with empty | commented
  · exact .none empty
  · rw [commented]
    exact @Declaration.IsHeading.comment _ (commentStart ++ programName) (by decide +kernel)
      (by decide +kernel)

/-- A module starts with no blank. -/
theorem trimStart_moduleCode (s : Settings) (d : Declaration) :
    trimStart (Declaration.moduleCode (s.commentLines programName) s.recordOptions d) =
        Declaration.moduleCode (s.commentLines programName) s.recordOptions d ∧
      Declaration.moduleCode (s.commentLines programName) s.recordOptions d ≠ [] := by
  have start : s.commentLines programName = [] ∨
      ∃ rest, s.commentLines programName = commentMark :: rest := by
    rcases s.commentLines_eq with empty | commented
    · exact .inl empty
    · exact .inr ⟨_, commented.trans rfl⟩
  obtain ⟨c, rest, starts, noBlank⟩ := Declaration.exists_start_moduleCode start s.recordOptions d
  rw [starts]
  exact ⟨List.dropWhile_cons_of_neg (by simp [noBlank]), List.cons_ne_nil _ _⟩

/-! ## Emission -/

/-- A reference of the schema that is no identifier and not quoted is a number in its canonical
spelling. -/
def HasSpelledReferences (s : Settings) (schema : Schema) : Prop :=
  ∀ p ∈ schema.properties, ∀ type, resolve p.2.types p.2.format p.2.ref = .ok type →
    Declaration.IsSpelled s.recordOptions type

/-- Without formatting, a module is emitted as it is. -/
theorem emit_unformatted
    {enabled : Json.Value}
    (identified : schema.id ≠ [])
    (disabled : enabled.isTruthy = false)
    (module : s.moduleText programName schema = .ok code) :
    { s with formatter := .options { options with enabled } }.emit tools programName schema =
      .ok code := by
  have nonempty : schema.id.isEmpty = false := by simpa using identified
  have same : { s with formatter := .options { options with enabled } }.moduleText programName schema =
      .ok code := module
  rw [emit, nonempty, same]
  change (if enabled.isTruthy = true then _ else pure code) = _
  rw [disabled]
  rfl

theorem isPlain_of_fieldNames
    (identifiers : ∀ name ∈ s.fieldNames schema, isFieldName name = true)
    (declared : Declaration.ofSchema s.recordOptions schema = .ok d) :
    d.IsPlain := by
  refine Declaration.isPlain_of_ofSchema (fun uncapitalized p member => ?_) declared
  have field := identifiers _ (List.mem_map_of_mem member)
  rw [Declaration.fieldName, uncapitalized] at field
  exact isPlainName_of_isFieldName field

/-- The names of a module that is code are those of its schema, and its annotations are values. -/
theorem hasNames_of_parse
    {tree : Tree}
    (className : ∀ name, TypeName.ofUri schema.id = .ok name → isFieldName name = true)
    (identifiers : ∀ name ∈ s.fieldNames schema, isFieldName name = true)
    (declared : Declaration.ofSchema s.recordOptions schema = .ok d)
    (free : CodePoint.carriageReturn ∉ s.commentLines programName)
    (loose : IsLoose (s.commentLines programName))
    (parsed : parse (Declaration.moduleCode (s.commentLines programName) s.recordOptions d) =
      .ok tree) :
    d.HasNames s.recordOptions := by
  have isPlain := isPlain_of_fieldNames identifiers declared
  obtain ⟨-, named, -, -⟩ := Declaration.ofSchema_eq_ok_iff.mp declared
  obtain ⟨-, evaluable⟩ :=
    isPlain.fields_of_parse loose (isPlain.carriageReturn_not_mem free) parsed
  refine ⟨className _ named, fun field member => ⟨?_, isPlain.referred field member,
    evaluable field member⟩, isPlain.nonempty⟩
  exact identifiers _ ((perm_fieldNames declared).mem_iff.mp (List.mem_map_of_mem member))

theorem isSpelled_of_ofSchema
    (spelled : s.HasSpelledReferences schema)
    (declared : Declaration.ofSchema s.recordOptions schema = .ok d) :
    ∀ field ∈ d.fields, Declaration.IsSpelled s.recordOptions field.type := by
  obtain ⟨-, -, aligned, -⟩ := Declaration.ofSchema_eq_ok_iff.mp declared
  intro field member
  obtain ⟨p, inSorted, isField⟩ := exists_left_of_mem aligned member
  exact spelled p ((Declaration.sortedProperties_perm schema).mem_iff.mp inSorted) field.type
    isField.type

/-- A module is in canonical form without formatting. If it is emitted with formatting by layout, its
names are identifiers and no keywords, and its references are spelled as a layout spells them, then
it is emitted without formatting too; and if no line of this text is longer than the formatter is told,
the formatted text is the same. -/
theorem emit_canonical
    (identified : schema.id ≠ [])
    (isFormatted : s.IsFormatted options)
    (laidOut : Formatter.named options.name = .ok .black)
    (className : ∀ name, TypeName.ofUri schema.id = .ok name → isFieldName name = true)
    (identifiers : ∀ name ∈ s.fieldNames schema, isFieldName name = true)
    (spelled : s.HasSpelledReferences schema)
    (emitted : s.emit tools programName schema = .ok text) :
    ∃ raw lineLength,
      (∀ enabled : Json.Value, enabled.isTruthy = false →
        { s with formatter := .options { options with enabled } }.emit tools programName schema =
          .ok raw) ∧
      Formatter.integerOption options.lineLength = .ok lineLength ∧
      ((∀ line ∈ Text.pieces CodePoint.lineFeed raw,
          ((Unicode.textWidth line : Nat) : Int) ≤ lineLength) →
        text = raw) := by
  rw [isFormatted.emit_eq identified] at emitted
  obtain ⟨code, module, ran⟩ := bind_eq_ok.mp emitted
  rw [laidOut, ok_bind] at ran
  obtain ⟨tree, parsed⟩ := Formatter.exists_parse_of_run ran
  obtain ⟨laid, width, formatted⟩ := Formatter.exists_layout_of_run ran
  refine ⟨code, laid.lineLength, fun enabled disabled => emit_unformatted identified disabled module,
    width, fun fits => ?_⟩
  obtain ⟨d, declared, rfl⟩ := moduleText_eq_ok_iff.mp module
  have oneLine : CodePoint.lineFeed ∉ programName ∧ CodePoint.carriageReturn ∉ programName := by
    decide
  have loose : IsLoose (s.commentLines programName) := isLoose_commentLines fun _ => oneLine.1
  have free : CodePoint.carriageReturn ∉ s.commentLines programName :=
    carriageReturn_not_mem_commentLines fun _ => oneLine.2
  have hasNames := hasNames_of_parse className identifiers declared free loose parsed
  -- The layout of the tree is the module again, so the formatter is at its end after one round.
  have layout (tree : Tree)
      (found : tree? (Declaration.moduleCode (s.commentLines programName) s.recordOptions d) =
        some tree) :
      tree.layout laid = Declaration.moduleCode (s.commentLines programName) s.recordOptions d := by
    rw [hasNames.eq_moduleTree loose found]
    exact hasNames.layout_moduleTree (isSpelled_of_ofSchema spelled declared) s.isTidy_commentLines
      s.isHeading_commentLines fits
  obtain ⟨trimmed, nonempty⟩ := trimStart_moduleCode s d
  exact Source.eq_of_layout
    ((isPlain_of_fieldNames identifiers declared).carriageReturn_not_mem free) trimmed nonempty layout
    formatted

/-- Settings without formatting. -/
def rawSettings : Settings := { formatter := .options { enabled := .bool false } }

/-- A module with a reference is emitted alike with and without formatting. -/
theorem emit_canonical_item :
    ∃ text, ({} : Settings).emit .full programName (referenceSchema "item.json") = .ok text ∧
      rawSettings.emit .full programName (referenceSchema "item.json") = .ok text ∧
      ∀ line ∈ Text.pieces CodePoint.lineFeed text, ((Unicode.textWidth line : Nat) : Int) ≤ 100 := by
  have named : TypeName.ofUri (.ofString "https://example.com/m.json") = .ok (.ofString "M") := by
    decide +kernel
  have className (name : Text)
      (ofUri : TypeName.ofUri (referenceSchema "item.json").id = .ok name) :
      isFieldName name = true := by
    cases named.symm.trans ofUri
    decide
  have spelled : ({} : Settings).HasSpelledReferences (referenceSchema "item.json") := by
    intro p member type resolved className reference late noIdentifier
    have item : resolve .empty none (.ofString "item.json") =
        .ok (.reference (.ofString "Item")) := by
      decide +kernel
    rw [List.mem_singleton.mp member] at resolved
    cases item.symm.trans resolved
    cases reference
    revert noIdentifier
    decide
  have evaluated : (({} : Settings).emit .full programName
        (referenceSchema "item.json")).toOption.isSome = true ∧
      (rawSettings.emit .full programName (referenceSchema "item.json")).toOption.all
        (fun raw => (Text.pieces CodePoint.lineFeed raw).all fun line =>
          ((Unicode.textWidth line : Nat) : Int) ≤ 100) = true := by
    decide +kernel
  obtain ⟨succeeds, short⟩ := evaluated
  obtain ⟨text, emitted⟩ := exists_ok_of_isSome succeeds
  obtain ⟨raw, lineLength, unformatted, width, canonical⟩ :=
    @emit_canonical {} .full (referenceSchema "item.json") {} text (by decide) ⟨rfl, rfl⟩ rfl
      className (by decide) spelled emitted
  have disabled : rawSettings.emit .full programName (referenceSchema "item.json") = .ok raw :=
    unformatted (.bool false) rfl
  rw [disabled] at short
  have fits : ∀ line ∈ Text.pieces CodePoint.lineFeed raw,
      ((Unicode.textWidth line : Nat) : Int) ≤ 100 := fun line member =>
    of_decide_eq_true (List.all_eq_true.mp short line member)
  cases width
  obtain rfl := canonical fits
  exact ⟨text, emitted, disabled, fits⟩

/-- The text of a module with a numeral for a reference. -/
def numeralCode (numeral : String) : Text :=
  Text.ofString "# Generated by json_schema_to_struct v0.1.0 : json_schema_to_struct\n\n" ++
    Text.ofString "from __future__ import annotations\n\nfrom dataclasses import dataclass\n\n\n" ++
    Text.ofString "@dataclass\nclass M:\n    x: " ++ Text.ofString numeral ++
    Text.ofString " | None\n"

/-- A reference that is a number in another spelling than the canonical one is respelled by the
formatter. -/
theorem emit_respells_number :
    (referenceSchema "1e5").id ≠ [] ∧ ({} : Settings).IsFormatted {} ∧
      Formatter.named ({} : FormatterSettings).name = .ok .black ∧
      TypeName.ofUri (referenceSchema "1e5").id = .ok (.ofString "M") ∧
      isFieldName (.ofString "M") = true ∧
      ({} : Settings).fieldNames (referenceSchema "1e5") = [.ofString "x"] ∧
      isFieldName (.ofString "x") = true ∧
      (rawSettings.emit .full programName (referenceSchema "1e5")).toOption =
        some (numeralCode "1E5") ∧
      (∀ line ∈ Text.pieces CodePoint.lineFeed (numeralCode "1E5"), Unicode.textWidth line ≤ 100) ∧
      (({} : Settings).emit .full programName (referenceSchema "1e5")).toOption =
        some (numeralCode "1e5") ∧
      numeralCode "1e5" ≠ numeralCode "1E5" := by
  refine ⟨by decide, ⟨rfl, rfl⟩, rfl, ?_⟩
  -- The rest is evaluated at once, so that nothing is evaluated twice, and behind its literals.
  rw [numeralCode, numeralCode]
  repeat rw [Text.ofString_ofList]
  decide +kernel

end Settings
end RecordGen
