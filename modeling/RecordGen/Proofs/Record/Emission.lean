import RecordGen.Proofs.Formatter.Outcomes
import RecordGen.Proofs.Record.Points
import RecordGen.Proofs.Record.ReadBack

/-!
# Outcomes of emission

The formatter checks a module before it does anything else, and the check refuses some texts with no
error of the generator: those with a surrogate or a null character. Such a point gets into a module
through the command line and the property names alone. Every other failure of emission with the default
settings is an error of the generator, and what is no code is reported as a formatter's error.
-/

namespace RecordGen

open Source

theorem isForeign_isSurrogate : IsForeign CodePoint.isSurrogate := by
  intro c ordinary
  simpa using (Bool.and_eq_true_iff.mp ordinary).2

theorem isForeign_null : IsForeign fun c => c.val = 0 := by
  intro c ordinary
  have visible := (Bool.and_eq_true_iff.mp ordinary).1
  simp only [Bool.or_eq_true, decide_eq_true_eq] at visible
  simp only [decide_eq_false_iff_not]
  omega

def Text.hasNull (t : Text) : Bool := t.any fun c => c.val = 0

namespace Source

variable {code : Text} {fault : Fault}

/-- The faults of a text, in the order in which they are looked for. -/
theorem fault_of_parse
    (refused : parse code = .error fault) :
    (fault = .unencodable ∧ code.hasSurrogate = true) ∨
      (fault = .nullCharacter ∧ code.hasSurrogate = false ∧ code.hasNull = true) ∨
        (fault = .invalidSyntax ∧ code.hasSurrogate = false ∧ code.hasNull = false) := by
  cases surrogate : code.hasSurrogate with
  | true =>
      rw [parse, if_pos surrogate] at refused
      cases refused
      exact Or.inl ⟨rfl, rfl⟩
  | false =>
      cases null : code.hasNull with
      | true =>
          have found : (code.any fun c => c.val = 0) = true := null
          rw [parse, surrogate, if_neg Bool.false_ne_true, found] at refused
          cases refused
          exact Or.inr (Or.inl ⟨rfl, rfl, rfl⟩)
      | false =>
          exact Or.inr (Or.inr ⟨eq_invalidSyntax_of_parse surrogate null refused, rfl, rfl⟩)

theorem free_of_parse
    {tree : Tree}
    (parsed : parse code = .ok tree) :
    code.hasSurrogate = false ∧ code.hasNull = false := by
  unfold parse at parsed
  split at parsed
  · cases parsed
  · rename_i encodable
    split at parsed
    · cases parsed
    · rename_i noNull
      exact ⟨eq_false_of_ne_true encodable, eq_false_of_ne_true noNull⟩

end Source

namespace Declaration

variable {options : RecordOptions} {schema : Schema} {d : Declaration}

theorem hasReferences_of_ofSchema
    (declared : ofSchema options schema = .ok d) :
    d.HasReferences := by
  obtain ⟨-, -, aligned, -⟩ := ofSchema_eq_ok_iff.mp declared
  intro field member className type
  obtain ⟨p, -, isField⟩ := exists_left_of_mem aligned member
  have resolved := isField.type
  rw [type] at resolved
  exact ⟨_, ofUri_of_resolve_eq_reference resolved⟩

/-- A field name is the property name, or in Pascal case, and then it is ordinary. -/
theorem any_fields_of_ofSchema
    {bad : CodePoint → Bool}
    (foreign : IsForeign bad)
    (declared : ofSchema options schema = .ok d) :
    (d.fields.any fun field => field.name.any bad) =
      (!options.capitalize && schema.properties.any fun p => p.1.any bad) := by
  obtain ⟨-, -, aligned, -⟩ := ofSchema_eq_ok_iff.mp declared
  have sameNames := (sortedProperties_perm schema).map fun p => fieldName options p.1
  rw [← map_name_eq_of_fields aligned] at sameNames
  have names : (d.fields.any fun field => field.name.any bad) =
      schema.properties.any fun p => (fieldName options p.1).any bad := by
    simpa [Function.comp_def] using sameNames.any_eq (f := fun name => name.any bad)
  rw [names]
  cases capitalized : options.capitalize with
  | true =>
      have ordinary (property : Text) : (fieldName options property).any bad = false := by
        rw [fieldName, capitalized, if_pos rfl]
        exact foreign.any_eq_false
          (List.all_eq_true.mpr fun _ member => Pascal.isOrdinary_of_mem_ofText member)
      simp [ordinary]
  | false =>
      simp [fieldName, capitalized]

theorem exists_error_of_fieldsAfter
    {properties : List (Text × Schema)} {taken : List RecordField} {failure : Failure}
    (failed : fieldsAfter options taken properties = .error failure) :
    ∃ error, failure = .generator error := by
  induction properties generalizing taken with
  | nil =>
      cases failed
  | cons p rest inductionHypothesis =>
      rcases fieldsAfter_cons_eq_error failed with unresolved | ⟨_, _, _, _, _, rfl⟩ | ⟨_, _, _, later⟩
      · obtain ⟨error, rfl, -⟩ :=
          @propertyFault_of_resolveProperty options (p :: rest) p failure unresolved
        exact ⟨error, rfl⟩
      · exact ⟨_, rfl⟩
      · exact inductionHypothesis later

/-- A schema that gives no declaration is refused with an error of the generator. -/
theorem exists_error_of_ofSchema
    {failure : Failure}
    (failed : ofSchema options schema = .error failure) :
    ∃ error, failure = .generator error := by
  unfold ofSchema at failed
  split at failed
  · cases failed
    exact ⟨_, rfl⟩
  · split at failed
    · cases failed
      exact ⟨_, rfl⟩
    · rcases bind_eq_error.mp failed with run | ⟨fields, -, last⟩
      · exact exists_error_of_fieldsAfter run
      · cases last

end Declaration

namespace Settings

variable {s : Settings} {tools : Formatter.Toolbox} {commandLine : Text} {schema : Schema}
  {code : Text}

/-- The texts that get into a module as they are: the command line in the comment, and the property
names unless their case is changed. -/
def verbatim (s : Settings) (commandLine : Text) (schema : Schema) : List Text :=
  (if s.addGenerationComment.isTruthy then [commandLine] else []) ++
    (if s.capitalizeFieldNames.isTruthy then [] else schema.properties.map Prod.fst)

theorem any_moduleText
    {bad : CodePoint → Bool}
    (foreign : IsForeign bad)
    (module : s.moduleText commandLine schema = .ok code) :
    code.any bad = (s.verbatim commandLine schema).any fun t => t.any bad := by
  obtain ⟨d, declared, rfl⟩ := moduleText_eq_ok_iff.mp module
  obtain ⟨-, named, -, -⟩ := Declaration.ofSchema_eq_ok_iff.mp declared
  have comment : (s.commentLines commandLine).any bad =
      (s.addGenerationComment.isTruthy && commandLine.any bad) := by
    have start : commentStart.any bad = false := foreign.any_eq_false (by decide)
    have lineEnd : [CodePoint.lineFeed].any bad = false := foreign.any_eq_false (by decide)
    cases commented : s.addGenerationComment.isTruthy with
    | true =>
        rw [commentLines, if_pos commented, List.any_append, foreign.any_line, List.any_append, start,
          lineEnd, Bool.or_false, Bool.false_or, Bool.true_and]
    | false =>
        simp [commentLines, commented]
  rw [Declaration.any_moduleCode foreign ⟨_, named⟩ (Declaration.hasReferences_of_ofSchema declared),
    Declaration.any_fields_of_ofSchema foreign declared, comment, verbatim, recordOptions]
  cases s.addGenerationComment.isTruthy <;> cases s.capitalizeFieldNames.isTruthy <;>
    simp [Function.comp_def]

/-! ## The default settings -/

theorem exists_error_of_moduleText
    {failure : Failure}
    (failed : s.moduleText commandLine schema = .error failure) :
    ∃ error, failure = .generator error := by
  simp only [moduleText, bind_eq_error, recordText, map_eq_error] at failed
  rcases failed with undeclared | ⟨body, -, last⟩
  · exact Declaration.exists_error_of_ofSchema undeclared
  · cases last

/-- The module of the schema comes to the check of the formatter that lays it out: the schema has an
identifier, nothing is missing for its declaration, and the formatter is installed. -/
structure IsChecked (tools : Formatter.Toolbox) (schema : Schema) : Prop where
  identified : schema.id ≠ []
  declares : Declaration.Declares ({} : Settings).recordOptions schema
  installed : tools.layoutInstalled = true

/-- The outcome is a text, or an error of the generator. -/
def IsAnswer (outcome : Attempt Text) : Prop :=
  (∃ text, outcome = .ok text) ∨ ∃ error, outcome = .error (.generator error)

theorem emit_default_eq
    (identified : schema.id ≠ []) :
    ({} : Settings).emit tools commandLine schema =
      (({} : Settings).moduleText commandLine schema >>= fun code =>
        Formatter.run tools .black code {}) := by
  rw [formats_default.emit_eq identified]
  rfl

theorem isAnswer_emit_default_of_not_isChecked
    (unchecked : ¬ IsChecked tools schema) :
    IsAnswer (({} : Settings).emit tools commandLine schema) := by
  by_cases identified : schema.id = []
  · exact Or.inl ⟨_, by rw [emit, identified]; rfl⟩
  · rw [emit_default_eq identified]
    cases module : ({} : Settings).moduleText commandLine schema with
    | error failure =>
        obtain ⟨error, rfl⟩ := exists_error_of_moduleText module
        exact Or.inr ⟨error, rfl⟩
    | ok code =>
        obtain ⟨d, declared, -⟩ := moduleText_eq_ok_iff.mp module
        have declares := Declaration.exists_ofSchema_iff.mp ⟨d, declared⟩
        have missing : tools.layoutInstalled = false := by
          by_contra installed
          exact unchecked ⟨identified, declares, by simpa using installed⟩
        refine Or.inr ⟨.formatting .black (.notInstalled FormatterName.black.text), ?_⟩
        simp only [bind, Except.bind, Formatter.run, Formatter.layOut, missing]
        rfl

theorem exists_moduleText_of_isChecked
    (commandLine : Text)
    (checked : IsChecked tools schema) :
    ∃ code, ({} : Settings).moduleText commandLine schema = .ok code := by
  obtain ⟨d, declared⟩ := Declaration.exists_ofSchema_iff.mpr checked.declares
  exact ⟨_, moduleText_eq_ok_iff.mpr ⟨d, declared, rfl⟩⟩

/-- A module that is checked is refused for what the check finds. -/
theorem emit_default_of_refused
    {fault : Fault}
    (checked : IsChecked tools schema)
    (module : ({} : Settings).moduleText commandLine schema = .ok code)
    (refused : parse code = .error fault) :
    ({} : Settings).emit tools commandLine schema =
      .error (Formatter.sourceFailure .black fault) := by
  rw [emit_default_eq checked.identified, module]
  have ready : Formatter.IsReady tools .black := checked.installed
  exact Formatter.run_of_refused ready refused

/-- A module that passes the check is answered. -/
theorem isAnswer_emit_default_of_parse
    {tree : Tree}
    (checked : IsChecked tools schema)
    (module : ({} : Settings).moduleText commandLine schema = .ok code)
    (parsed : parse code = .ok tree) :
    IsAnswer (({} : Settings).emit tools commandLine schema) := by
  rw [emit_default_eq checked.identified, module]
  change IsAnswer (Formatter.layOut tools.layoutInstalled code {})
  cases laidOut : Formatter.layOut tools.layoutInstalled code {} with
  | ok text =>
      exact Or.inl ⟨text, rfl⟩
  | error failure =>
      rcases Formatter.layOut_eq_error FormatterSettings.hasKinds_default laidOut with
        ⟨error, rfl, -⟩ | ⟨fault, refused, -⟩
      · exact Or.inr ⟨error, rfl⟩
      · rw [parsed] at refused
        cases refused

theorem IsAnswer.ne_error
    {outcome : Attempt Text} {failure : Failure}
    (answer : IsAnswer outcome)
    (foreign : ∀ error, failure ≠ .generator error) :
    outcome ≠ .error failure := by
  rintro rfl
  rcases answer with ⟨text, same⟩ | ⟨error, same⟩
  · cases same
  · exact foreign error (Except.error.inj same)

/-- What emission with the default settings comes to, told by the texts that get into the module as
they are. -/
theorem emit_default_cases
    (tools : Formatter.Toolbox) (commandLine : Text) (schema : Schema) :
    let emitted := ({} : Settings).emit tools commandLine schema
    let texts := ({} : Settings).verbatim commandLine schema
    IsAnswer emitted ∧ ¬ (IsChecked tools schema ∧
        (texts.any Text.hasSurrogate = true ∨ texts.any Text.hasNull = true)) ∨
      emitted = .error .unencodable ∧ IsChecked tools schema ∧ texts.any Text.hasSurrogate = true ∨
      emitted = .error .nullCharacter ∧ IsChecked tools schema ∧
        texts.any Text.hasSurrogate = false ∧ texts.any Text.hasNull = true := by
  intro emitted texts
  by_cases checked : IsChecked tools schema
  · obtain ⟨code, module⟩ := exists_moduleText_of_isChecked commandLine checked
    have surrogates : code.hasSurrogate = texts.any Text.hasSurrogate :=
      any_moduleText isForeign_isSurrogate module
    have nulls : code.hasNull = texts.any Text.hasNull := any_moduleText isForeign_null module
    rw [← surrogates, ← nulls]
    cases parsed : parse code with
    | error fault =>
        have ended : emitted = .error (Formatter.sourceFailure .black fault) :=
          emit_default_of_refused checked module parsed
        rcases fault_of_parse parsed with ⟨rfl, found⟩ | ⟨rfl, encodable, found⟩ | ⟨rfl, free, noNull⟩
        · exact Or.inr (Or.inl ⟨ended, checked, found⟩)
        · exact Or.inr (Or.inr ⟨ended, checked, encodable, found⟩)
        · exact Or.inl ⟨Or.inr ⟨_, ended⟩, by simp [free, noNull]⟩
    | ok tree =>
        have answer := isAnswer_emit_default_of_parse checked module parsed
        exact Or.inl ⟨answer, by simp [free_of_parse parsed]⟩
  · have answer := @isAnswer_emit_default_of_not_isChecked tools commandLine schema checked
    exact Or.inl ⟨answer, fun found => checked found.1⟩

/-- With the default settings emission ends with a text or an error of the generator, unless the
command line or a property name has a surrogate or a null character: a module with one is not code, but
that is not reported. A module that is no code for its syntax is. -/
theorem emit_default_outcomes
    (tools : Formatter.Toolbox) (commandLine : Text) (schema : Schema) :
    let emitted := ({} : Settings).emit tools commandLine schema
    let texts := commandLine :: schema.properties.map Prod.fst
    (IsAnswer emitted ∨ emitted = .error .unencodable ∨ emitted = .error .nullCharacter) ∧
    (emitted = .error .unencodable ↔
      IsChecked tools schema ∧ texts.any Text.hasSurrogate = true) ∧
    (emitted = .error .nullCharacter ↔
      IsChecked tools schema ∧ texts.any Text.hasSurrogate = false ∧
        texts.any Text.hasNull = true) ∧
    (∀ code, IsChecked tools schema →
      ({} : Settings).moduleText commandLine schema = .ok code →
        parse code = .error .invalidSyntax →
          emitted = .error (.generator (.formatting .black .invalidSyntax))) := by
  intro emitted texts
  have invalid (code : Text) (checked : IsChecked tools schema)
      (module : ({} : Settings).moduleText commandLine schema = .ok code)
      (refused : parse code = .error .invalidSyntax) :
      emitted = .error (.generator (.formatting .black .invalidSyntax)) :=
    emit_default_of_refused checked module refused
  -- The cases exclude each other, so each of them decides both equivalences.
  rcases emit_default_cases tools commandLine schema with
    ⟨answer, unmet⟩ | ⟨ended, checked, found⟩ | ⟨ended, checked, encodable, found⟩
  · refine ⟨Or.inl answer, ?_, ?_, invalid⟩
    · refine iff_of_false (answer.ne_error (by simp)) ?_
      rintro ⟨checked, found⟩
      exact unmet ⟨checked, Or.inl found⟩
    · refine iff_of_false (answer.ne_error (by simp)) ?_
      rintro ⟨checked, -, found⟩
      exact unmet ⟨checked, Or.inr found⟩
  · refine ⟨Or.inr (Or.inl ended), iff_of_true ended ⟨checked, found⟩, ?_, invalid⟩
    refine iff_of_false (fun other => by cases ended.symm.trans other) ?_
    rintro ⟨-, encodable, -⟩
    cases found.symm.trans encodable
  · refine ⟨Or.inr (Or.inr ended), ?_, iff_of_true ended ⟨checked, encodable, found⟩, invalid⟩
    refine iff_of_false (fun other => by cases ended.symm.trans other) ?_
    rintro ⟨-, found⟩
    cases encodable.symm.trans found

/-- A document with an identifier and one property, whose name is spelled inside quotes. -/
def propertyDocument (spelling : String) : Json.Document :=
  .text (.ofString ("\x7b\"$id\": \"https://example.com/m.json\", \"properties\": \x7b\"" ++
    spelling ++ "\": \x7b\"type\": \"string\"\x7d\x7d\x7d"))

/-- Documents that are decoded but whose modules end emission with no error of the generator. -/
theorem generate_propertyDocument_escapes :
    (Schema.ofDocument (propertyDocument "a\\u0000")).toOption.isSome = true ∧
      ({} : Settings).generate .full programName (propertyDocument "a\\u0000") =
        .error .nullCharacter ∧
      (Schema.ofDocument (propertyDocument "a\\ud800")).toOption.isSome = true ∧
      ({} : Settings).generate .full programName (propertyDocument "a\\ud800") =
        .error .unencodable := by
  rw [propertyDocument, propertyDocument]
  repeat rw [Text.ofString_append]
  repeat rw [Text.ofString_ofList]
  decide +kernel

end Settings
end RecordGen
