import RecordGen.Proofs.Record.Emission
import RecordGen.Proofs.Settings.Shape

/-!
# Generation with usable settings

A document that generates with the default settings can fail with other usable settings only in two
ways that are errors of the generator: two field names become the same in Pascal case, or the formatter
complains. What else can happen is that the formatter's command does not run or prints no text.
-/

namespace RecordGen

open Source

namespace Declaration

variable {options options' : RecordOptions} {schema : Schema} {failure : Failure}

theorem exists_duplicate_of_fieldsAfter
    {properties : List (Text × Schema)} {taken : List RecordField}
    (resolved : ∀ p ∈ properties, ∃ type, resolve p.2.types p.2.format p.2.ref = .ok type)
    (failed : fieldsAfter options taken properties = .error failure) :
    ∃ field first second, failure = .generator (.duplicateField field first second) := by
  induction properties generalizing taken with
  | nil =>
      cases failed
  | cons p rest inductionHypothesis =>
      obtain ⟨⟨type, own⟩, others⟩ := List.forall_mem_cons.mp resolved
      rcases fieldsAfter_cons_eq_error failed with unresolved | ⟨_, _, _, _, _, rfl⟩ | ⟨_, _, _, later⟩
      · rw [resolveProperty_eq_ok_iff.mpr own] at unresolved
        cases unresolved
      · exact ⟨_, _, _, rfl⟩
      · exact inductionHypothesis others later

/-- A schema that is declared with some options is refused with others only for a field name that is
taken. -/
theorem exists_duplicate_of_ofSchema
    (declares : Declares options schema)
    (failed : ofSchema options' schema = .error failure) :
    ∃ field first second, failure = .generator (.duplicateField field first second) := by
  obtain ⟨className, named⟩ := declares.named
  have nonempty : schema.properties.isEmpty = false := by simpa using declares.nonempty
  rw [ofSchema, nonempty, named] at failed
  rcases bind_eq_error.mp failed with run | ⟨fields, -, last⟩
  · refine exists_duplicate_of_fieldsAfter (fun p member => ?_) run
    exact declares.resolved p ((sortedProperties_perm schema).mem_iff.mp member)
  · cases last

end Declaration

namespace Settings

variable {s : Settings} {tools : Formatter.Toolbox} {commandLine : Text} {schema : Schema}
  {document : Json.Document} {sample code : Text} {failure : Failure}

theorem exists_emit_of_generate
    (generated : s.generate tools commandLine document = .ok code) :
    ∃ schema, Schema.ofDocument document = .ok schema ∧ s.emit tools commandLine schema = .ok code := by
  obtain ⟨schema, decoded, emitted⟩ := bind_eq_ok.mp generated
  exact ⟨schema, mapError_eq_ok.mp decoded, emitted⟩

/-- A schema with an identifier that generates with the default settings is declared, and its names and
the command line have nothing that the check refuses. -/
theorem free_of_emit_default
    (identified : schema.id ≠ [])
    (emitted : ({} : Settings).emit tools commandLine schema = .ok sample) :
    Declaration.Declares ({} : Settings).recordOptions schema ∧
      (({} : Settings).verbatim commandLine schema).any Text.hasSurrogate = false ∧
        (({} : Settings).verbatim commandLine schema).any Text.hasNull = false := by
  rw [emit_default_eq identified] at emitted
  obtain ⟨code, module, ran⟩ := bind_eq_ok.mp emitted
  obtain ⟨d, declared, -⟩ := moduleText_eq_ok_iff.mp module
  obtain ⟨tree, parsed⟩ := Formatter.exists_parse_of_run ran
  obtain ⟨encodable, noNull⟩ := free_of_parse parsed
  refine ⟨Declaration.exists_ofSchema_iff.mp ⟨d, declared⟩, ?_, ?_⟩
  · exact (any_moduleText isForeign_isSurrogate module).symm.trans encodable
  · exact (any_moduleText isForeign_null module).symm.trans noNull

/-- Other settings let nothing more into a module as it is. -/
theorem any_verbatim_of_default
    {holds : Text → Bool}
    (free : (({} : Settings).verbatim commandLine schema).any holds = false) :
    (s.verbatim commandLine schema).any holds = false := by
  have texts : ({} : Settings).verbatim commandLine schema =
      commandLine :: schema.properties.map Prod.fst := rfl
  rw [texts, List.any_cons, Bool.or_eq_false_iff] at free
  obtain ⟨ofComment, ofNames⟩ := free
  rw [verbatim, List.any_append]
  cases s.addGenerationComment.isTruthy <;> cases s.capitalizeFieldNames.isTruthy <;>
    simp [-List.any_map, ofComment, ofNames]

theorem any_preamble
    {bad : CodePoint → Bool}
    (foreign : IsForeign bad)
    (free : commandLine.any bad = false) :
    (s.preamble commandLine).any bad = false := by
  have start : commentStart.any bad = false := foreign.any_eq_false (by decide)
  have late : lateAnnotationLine.any bad = false := foreign.any_eq_false (by decide)
  have lineEnd : [CodePoint.lineFeed].any bad = false := foreign.any_eq_false (by decide)
  rw [preamble_eq, List.any_append, List.any_append]
  cases s.addGenerationComment.isTruthy <;> cases s.useFutureAnnotations.isTruthy <;>
    simp [foreign.any_line, start, late, lineEnd, free, -List.any_eq_false]

/-- A point that is not ordinary, nor in a module with the default settings, is in a module with other
settings only if the command line or a formatter brings it. -/
theorem any_of_emit
    {bad : CodePoint → Bool}
    (foreign : IsForeign bad)
    (free : schema.id ≠ [] →
      ((({} : Settings).verbatim commandLine schema).any fun t => t.any bad) = false)
    (emitted : s.emit tools commandLine schema = .ok code)
    (found : code.any bad = true) :
    commandLine.any bad = true ∨ Formatter.IsFormatted tools code := by
  by_cases identified : schema.id = []
  · rw [emit, identified] at emitted
    cases emitted
    refine Or.inl (Bool.of_not_eq_false fun absent => ?_)
    rw [any_preamble foreign absent] at found
    cases found
  · have nonempty : schema.id.isEmpty = false := by simpa using identified
    rw [emit, nonempty] at emitted
    obtain ⟨module, written, rest⟩ := bind_eq_ok.mp emitted
    obtain ⟨f, -, last⟩ := bind_eq_ok.mp rest
    split at last
    · obtain ⟨formatter, -, ran⟩ := bind_eq_ok.mp last
      exact Or.inr ⟨formatter, module, f, ran⟩
    · cases last
      have absent := (any_moduleText foreign written).trans (any_verbatim_of_default (free identified))
      rw [absent] at found
      cases found

/-- The errors that settings can bring about: a field name is taken, or a formatter complains. -/
inductive Raises : GeneratorError → Prop
  | duplicate (field first second : Text) : Raises (.duplicateField field first second)
  | complaint {error : GeneratorError} : Formatter.Complaint error → Raises error

theorem emit_eq_error
    (usable : s.IsUsable)
    (spawned : tools.environment.IsSpawned)
    (emitted : ({} : Settings).emit tools commandLine schema = .ok sample)
    (failed : s.emit tools commandLine schema = .error failure) :
    (∃ error, failure = .generator error ∧ Raises error) ∨
      Formatter.IsObstacle tools.environment FormatterName.ruff.text failure := by
  by_cases identified : schema.id = []
  · rw [emit, identified] at failed
    cases failed
  · obtain ⟨declares, surrogates, nulls⟩ := free_of_emit_default identified emitted
    obtain ⟨f, group, ⟨kinds, formatter, named⟩⟩ := usable.formatter
    have nonempty : schema.id.isEmpty = false := by simpa using identified
    have present : s.formatterFor "enabled" = .ok f := by
      rw [formatterFor, group]
      rfl
    rw [emit, nonempty, present] at failed
    -- Since the default settings emit, only a name in Pascal case can be in the way of a module.
    rcases bind_eq_error.mp failed with undeclared | ⟨code, module, rest⟩
    · simp only [moduleText, bind_eq_error, recordText, map_eq_error] at undeclared
      rcases undeclared with refused | ⟨body, -, last⟩
      · obtain ⟨field, first, second, rfl⟩ :=
          Declaration.exists_duplicate_of_ofSchema declares refused
        exact Or.inl ⟨_, rfl, .duplicate field first second⟩
      · cases last
    · have encodable : code.hasSurrogate = false :=
        (any_moduleText isForeign_isSurrogate module).trans (any_verbatim_of_default surrogates)
      have noNull : code.hasNull = false :=
        (any_moduleText isForeign_null module).trans (any_verbatim_of_default nulls)
      rw [Attempt.ofSettings, mapError_ok, ok_bind, named] at rest
      split at rest
      · rcases Formatter.run_eq_error spawned kinds rest with
          ⟨error, rfl, complaint⟩ | obstacle | ⟨fault, refused, rfl⟩
        · exact Or.inl ⟨error, rfl, .complaint complaint⟩
        · exact Or.inr obstacle
        · obtain rfl := eq_invalidSyntax_of_parse encodable noNull refused
          exact Or.inl ⟨_, rfl, .complaint (.refusal formatter)⟩
      · cases rest

/-- What ends generation with usable settings, for a document that generates with the default ones: an
error that the settings raise, or a command that does not run or prints no text. -/
theorem generate_eq_error
    (usable : s.IsUsable)
    (spawned : tools.environment.IsSpawned)
    (generates : ({} : Settings).generate tools commandLine document = .ok sample)
    (failed : s.generate tools commandLine document = .error failure) :
    (∃ error, failure = .generator error ∧ Raises error) ∨
      Formatter.IsObstacle tools.environment FormatterName.ruff.text failure := by
  obtain ⟨schema, decoded, emitted⟩ := exists_emit_of_generate generates
  rw [generate, decoded, mapError_ok] at failed
  exact emit_eq_error usable spawned emitted failed

/-- What the check of a text refuses beside its syntax is in generated code only through the command
line or a formatter, if the default settings generate code. -/
theorem any_of_generate
    (generates : ({} : Settings).generate tools commandLine document = .ok sample)
    (generated : s.generate tools commandLine document = .ok code) :
    (code.hasSurrogate = true → commandLine.hasSurrogate = true ∨ Formatter.IsFormatted tools code) ∧
      (code.hasNull = true → commandLine.hasNull = true ∨ Formatter.IsFormatted tools code) := by
  obtain ⟨schema, decoded, byDefault⟩ := exists_emit_of_generate generates
  obtain ⟨same, again, emitted⟩ := exists_emit_of_generate generated
  obtain rfl := Except.ok.inj (decoded.symm.trans again)
  exact ⟨any_of_emit isForeign_isSurrogate (fun identified =>
      (free_of_emit_default identified byDefault).2.1) emitted,
    any_of_emit isForeign_null (fun identified =>
      (free_of_emit_default identified byDefault).2.2) emitted⟩

end Settings
end RecordGen
