import RecordGen.Proofs.Name.Inert
import RecordGen.Proofs.Record.ReadBack

/-!
# References that are refused

A reference whose URI gives no name is refused at once. Behind that stands only the check of the whole
module, which sees a name as far as annotations are not quoted: it lets pass what stands for a value,
and that may be a number. In quotes every name passes.
-/

namespace RecordGen.Settings

open Source

variable {s : Settings} {tools : Formatter.Toolbox} {commandLine : Text} {schema : Schema}
  {options : FormatterSettings} {code : Text} {tree : Tree} {p : Text × Schema} {className : Text}

/-! ## Checked modules -/

/-- Text is emitted only for a module that is code. -/
theorem IsFormatted.exists_parse_of_emit
    {text : Text}
    (isFormatted : s.IsFormatted options)
    (identified : schema.id ≠ [])
    (emitted : s.emit tools commandLine schema = .ok text) :
    ∃ code tree, s.moduleText commandLine schema = .ok code ∧ parse code = .ok tree := by
  rw [isFormatted.emit_eq identified] at emitted
  obtain ⟨code, module, formatted⟩ := bind_eq_ok.mp emitted
  obtain ⟨formatter, -, ran⟩ := bind_eq_ok.mp formatted
  obtain ⟨tree, parsed⟩ := Formatter.exists_parse_of_run ran
  exact ⟨code, tree, module, parsed⟩

/-- A failure is the complaint of the formatter about the syntax, if nothing has failed before: the
module is there and can be encoded, and the formatter is known and installed. -/
def IsComplaint (s : Settings) (tools : Formatter.Toolbox) (commandLine : Text) (schema : Schema)
    (options : FormatterSettings) (failure : Failure) : Prop :=
  ∀ code formatter, s.moduleText commandLine schema = .ok code →
    code.hasSurrogate = false → (code.any fun c => c.val = 0) = false →
    Formatter.named options.name = .ok formatter → Formatter.IsReady tools formatter →
      failure = .generator (.formatting formatter .invalidSyntax)

/-- A module that is no code is not emitted. -/
theorem IsFormatted.exists_failure_of_refused
    (isFormatted : s.IsFormatted options)
    (identified : schema.id ≠ [])
    (refused : ∀ code tree, s.moduleText commandLine schema = .ok code → parse code ≠ .ok tree) :
    ∃ failure, s.emit tools commandLine schema = .error failure ∧
      s.IsComplaint tools commandLine schema options failure := by
  rw [isFormatted.emit_eq identified]
  cases module : s.moduleText commandLine schema with
  | error failure =>
      refine ⟨failure, rfl, fun code formatter present => ?_⟩
      rw [module] at present
      cases present
  | ok code =>
      cases outcome : parse code with
      | ok tree => exact absurd outcome (refused code tree module)
      | error fault =>
          cases chosen : Formatter.named options.name with
          | error failure =>
              refine ⟨failure, rfl, fun _ formatter _ _ _ known => ?_⟩
              rw [chosen] at known
              cases known
          | ok formatter =>
              obtain ⟨failure, failed⟩ :=
                @Formatter.exists_failure_of_refused tools formatter code options fault outcome
              refine ⟨failure, failed, fun other formatter' present encodable noNull known ready => ?_⟩
              rw [module] at present
              rw [chosen] at known
              cases present
              cases known
              have reported :=
                @Formatter.run_of_refused tools formatter code options fault ready outcome
              rw [failed, eq_invalidSyntax_of_parse encodable noNull outcome] at reported
              exact Except.error.inj reported

/-! ## References -/

/-- In a module that is code, a reference that is not quoted stands for a value. -/
theorem isValueText_of_parse
    (oneLine : s.addGenerationComment.isTruthy = true →
      CodePoint.lineFeed ∉ commandLine ∧ CodePoint.carriageReturn ∉ commandLine)
    (plain : s.capitalizeFieldNames.isTruthy = false →
      ∀ p ∈ schema.properties, Declaration.isPlainName p.1 = true)
    (module : s.moduleText commandLine schema = .ok code)
    (parsed : parse code = .ok tree)
    (member : p ∈ schema.properties)
    (resolved : resolve p.2.types p.2.format p.2.ref = .ok (.reference className))
    (late : s.useFutureAnnotations.isTruthy = true) :
    isValueText className = true := by
  obtain ⟨d, declared, rfl⟩ := moduleText_eq_ok_iff.mp module
  have isPlain := Declaration.isPlain_of_ofSchema plain declared
  have loose := isLoose_commentLines fun commented => (oneLine commented).1
  have free := carriageReturn_not_mem_commentLines fun commented => (oneLine commented).2
  obtain ⟨-, evaluable⟩ :=
    isPlain.fields_of_parse loose (isPlain.carriageReturn_not_mem free) parsed
  obtain ⟨-, -, aligned, -⟩ := Declaration.ofSchema_eq_ok_iff.mp declared
  have inSorted := (Declaration.sortedProperties_perm schema).mem_iff.mpr member
  obtain ⟨field, inFields, isField⟩ := exists_right_of_mem aligned inSorted
  have type : field.type = .reference className :=
    Except.ok.inj (isField.type.symm.trans resolved)
  exact evaluable field inFields className type late

/-- What references get past emission, if the field names are plain. Text is emitted only if every
reference gives an inert name, which stands for a value where annotations are not evaluated: it is an
identifier that is no keyword, a word for a value, or a number. A property that does not resolve makes
emission fail, and so does a name that stands for no value, as a complaint about the syntax. -/
theorem emit_references
    (identified : schema.id ≠ [])
    (isFormatted : s.IsFormatted options)
    (oneLine : s.addGenerationComment.isTruthy = true →
      CodePoint.lineFeed ∉ commandLine ∧ CodePoint.carriageReturn ∉ commandLine)
    (plain : s.capitalizeFieldNames.isTruthy = false →
      ∀ p ∈ schema.properties, Declaration.isPlainName p.1 = true) :
    (∀ text, s.emit tools commandLine schema = .ok text →
      ∀ p ∈ schema.properties, ∀ className,
        resolve p.2.types p.2.format p.2.ref = .ok (.reference className) →
          TypeName.ofUri p.2.ref = .ok className ∧ IsInert className ∧
            (s.useFutureAnnotations.isTruthy = true →
              isValueText className = true)) ∧
      ∀ p ∈ schema.properties,
        ((∀ type, resolve p.2.types p.2.format p.2.ref ≠ .ok type) →
          ∃ failure, s.emit tools commandLine schema = .error failure) ∧
        ∀ className, resolve p.2.types p.2.format p.2.ref = .ok (.reference className) →
          s.useFutureAnnotations.isTruthy = true → isValueText className = false →
            ∃ failure, s.emit tools commandLine schema = .error failure ∧
              s.IsComplaint tools commandLine schema options failure := by
  refine ⟨fun text emitted p member className resolved => ?_, fun p member => ⟨fun missing => ?_, ?_⟩⟩
  · obtain ⟨code, tree, module, parsed⟩ := isFormatted.exists_parse_of_emit identified emitted
    have named := ofUri_of_resolve_eq_reference resolved
    exact ⟨named, TypeName.isInert_of_ofUri named,
      isValueText_of_parse oneLine plain module parsed member resolved⟩
  · cases outcome : s.emit tools commandLine schema with
    | error failure => exact ⟨failure, rfl⟩
    | ok text =>
        obtain ⟨code, tree, module, -⟩ := isFormatted.exists_parse_of_emit identified outcome
        obtain ⟨d, declared, -⟩ := moduleText_eq_ok_iff.mp module
        have declares := Declaration.exists_ofSchema_iff.mp ⟨d, declared⟩
        obtain ⟨type, resolved⟩ := declares.resolved p member
        exact absurd resolved (missing type)
  · intro className resolved late noValue
    refine isFormatted.exists_failure_of_refused identified fun code tree module parsed => ?_
    rw [isValueText_of_parse oneLine plain module parsed member resolved late] at noValue
    cases noValue

def referenceSchema (ref : String) : Schema :=
  { id := .ofString "https://example.com/m.json",
    properties := [(.ofString "x", { ref := .ofString ref })] }

/-- The names of three references: one that is emitted, one that nothing is named by, and one that is
no annotation. -/
theorem emit_references_item :
    (∃ text, ({} : Settings).emit .full programName (referenceSchema "item.json") = .ok text ∧
      isValueText (.ofString "Item") = true) ∧
      (∃ failure, ({} : Settings).emit .full programName (referenceSchema "#item") =
        .error failure) ∧
        ({} : Settings).emit .full programName (referenceSchema "1a") =
          .error (.generator (.formatting .black .invalidSyntax)) := by
  have isFormatted : ({} : Settings).IsFormatted {} := ⟨rfl, rfl⟩
  have oneLine : ({} : Settings).addGenerationComment.isTruthy = true →
      CodePoint.lineFeed ∉ programName ∧ CodePoint.carriageReturn ∉ programName := by
    decide
  have evaluated :
      (({} : Settings).emit .full programName (referenceSchema "item.json")).toOption.isSome = true ∧
        ((({} : Settings).moduleText programName (referenceSchema "1a")).toOption.any
          fun code => !code.hasSurrogate && !code.any fun c => c.val = 0) = true := by
    decide +kernel
  obtain ⟨succeeds, readable⟩ := evaluated
  refine ⟨?_, ?_, ?_⟩
  · have accepted := @emit_references {} .full programName (referenceSchema "item.json") {}
      (by decide) isFormatted oneLine (by decide)
    obtain ⟨text, emitted⟩ := exists_ok_of_isSome succeeds
    obtain ⟨-, -, isValue⟩ := accepted.1 text emitted _ List.mem_cons_self (.ofString "Item")
      (by decide +kernel)
    exact ⟨text, emitted, isValue rfl⟩
  · have unnamed := @emit_references {} .full programName (referenceSchema "#item") {} (by decide)
      isFormatted oneLine (by decide)
    refine (unnamed.2 _ List.mem_cons_self).1 fun type resolved => ?_
    have missing : resolve .empty none (.ofString "#item") =
        .error (.naming (.unusable (.ofString "#item"))) := by
      decide +kernel
    cases missing.symm.trans resolved
  · have refused := @emit_references {} .full programName (referenceSchema "1a") {} (by decide)
      isFormatted oneLine (by decide)
    obtain ⟨failure, emitted, complaint⟩ := (refused.2 _ List.mem_cons_self).2 (.ofString "1A")
      (by decide +kernel) rfl (by decide +kernel)
    cases module : ({} : Settings).moduleText programName (referenceSchema "1a") with
    | error other =>
        rw [module] at readable
        cases readable
    | ok code =>
        rw [module] at readable
        obtain ⟨encodable, noNull⟩ := Bool.and_eq_true_iff.mp readable
        rw [Bool.not_eq_true'] at encodable noNull
        rw [emitted, complaint code .black module encodable noNull rfl rfl]

/-- Settings under which annotations are evaluated. -/
def quotingSettings : Settings := { useFutureAnnotations := .bool false }

/-- A reference gets past emission with a number for a name, and in quotes with any name. -/
theorem emit_accepts_number :
    ({} : Settings).IsFormatted {} ∧ quotingSettings.IsFormatted {} ∧
      TypeName.ofUri (.ofString "123") = .ok (.ofString "123") ∧
      isFieldName (.ofString "123") = false ∧
      (({} : Settings).emit .full programName (referenceSchema "123")).toOption =
        some (.ofString ("# Generated by json_schema_to_struct v0.1.0 : json_schema_to_struct\n\n" ++
          "from __future__ import annotations\n\nfrom dataclasses import dataclass\n\n\n" ++
          "@dataclass\nclass M:\n    x: 123 | None\n")) ∧
      TypeName.ofUri (.ofString "1a") = .ok (.ofString "1A") ∧
      isFieldName (.ofString "1A") = false ∧
      (quotingSettings.emit .full programName (referenceSchema "1a")).toOption =
        some (.ofString ("# Generated by json_schema_to_struct v0.1.0 : json_schema_to_struct\n\n" ++
          "from dataclasses import dataclass\n\n\n" ++
          "@dataclass\nclass M:\n    x: \"1A | None\"\n")) := by
  refine ⟨⟨rfl, rfl⟩, ⟨rfl, rfl⟩, ?_⟩
  repeat rw [Text.ofString_append]
  repeat rw [Text.ofString_ofList]
  decide +kernel

end RecordGen.Settings
