import RecordGen.Proofs.Command.Runs
import RecordGen.Proofs.Files.Failures
import RecordGen.Proofs.Json.Limits
import RecordGen.Proofs.Settings.Generation
import RecordGen.Proofs.Settings.Messages

/-!
# Reports of runs

How a run ends whatever its settings file holds. All that is wrong with the file is reported in one
line, but for settings that are accepted without the shape that is asked of them later; with the shape
nothing about them ends a run that would not be reported.
-/

namespace RecordGen

open Text

/-! ## Messages -/

theorem EncodingFault.isOneLine_reason (fault : EncodingFault) : fault.reason.IsOneLine := by
  cases fault <;> exact isOneLine_literal (by decide)

theorem EncodingError.isOneLine_message (bytes : Bytes) (error : EncodingError) :
    (error.message bytes).IsOneLine := by
  have reason := error.fault.isOneLine_reason
  simp only [message, isOneLine_append]
  split_ifs <;> simp +decide [reason]

theorem Json.Fault.isOneLine_message (fault : Json.Fault) : fault.message.IsOneLine := by
  cases fault <;> exact isOneLine_literal (by decide)

theorem FormatterName.isOneLine_text (formatter : FormatterName) : formatter.text.IsOneLine := by
  cases formatter <;> exact isOneLine_literal (by decide)

theorem GeneratorError.isOneLine_formatting
    {formatter : FormatterName} {fault : FormatFault}
    (short : fault.reason.IsOneLine) :
    (formatting formatter fault).message.IsOneLine :=
  isOneLine_append.mpr
    ⟨isOneLine_append.mpr ⟨formatter.isOneLine_text, isOneLine_literal (by decide)⟩, short⟩

/-- An error that settings raise is told in one line, unless a command tells its own reason. -/
theorem Settings.Raises.isOneLine_message
    {error : GeneratorError}
    (raises : Settings.Raises error) :
    error.message.IsOneLine ∨ ∃ reason, error = .formatting .ruff (.commandFailed reason) := by
  cases raises with
  | duplicate field first second =>
      refine Or.inl ?_
      simp +decide [GeneratorError.message]
  | complaint complains =>
      cases complains with
      | missing formatter =>
          have reason : (FormatFault.notInstalled formatter.text).reason.IsOneLine :=
            isOneLine_append.mpr ⟨formatter.isOneLine_text, isOneLine_literal (by decide)⟩
          exact Or.inl (GeneratorError.isOneLine_formatting reason)
      | refusal formatter =>
          exact Or.inl (GeneratorError.isOneLine_formatting (isOneLine_literal (by decide)))
      | target version =>
          have reason : (FormatFault.unknownTarget version).reason.IsOneLine :=
            isOneLine_append.mpr ⟨isOneLine_literal (by decide), isOneLine_quoted version⟩
          exact Or.inl (GeneratorError.isOneLine_formatting reason)
      | unreadable =>
          exact Or.inl (GeneratorError.isOneLine_formatting (isOneLine_literal (by decide)))
      | command reason =>
          exact Or.inr ⟨reason, rfl⟩

namespace Command

open DiskStep

/-! ## Settings files -/

theorem isOneLine_syntaxMessage (t : Text) (error : Json.SyntaxError) :
    (syntaxMessage t error).IsOneLine := by
  have fault := error.fault.isOneLine_message
  simp +decide [syntaxMessage, fault]

theorem nestsTooDeeply_of_readText
    {t : Text}
    (stopped : Json.readText t = .error .tooDeep) :
    Json.NestsTooDeeply t := by
  unfold Json.readText at stopped
  split at stopped
  · cases stopped
  · rcases Json.read_eq_error stopped with ⟨_, ⟨⟩⟩ | ⟨-, deep⟩ | ⟨_, ⟨⟩, -⟩
    exact deep

/-- The octets of a settings file that are handled throughout: they are not nested too deeply, the
names of their formatter options are on one line, and if they are accepted, they have the shape. -/
structure IsHandled (bytes : Bytes) : Prop where
  shallow : ∀ t, Utf8.decode .refused bytes = .ok t → ¬ Json.NestsTooDeeply t.unifyLineBreaks
  plain : ∀ document, settingsDocument? bytes = some document → Settings.HasPlainNames document
  shaped : ∀ members s, settingsDocument? bytes = some (.obj members) →
    Settings.ofMembers members = .ok s → Settings.IsShaped members

/-- Settings that are handled are read and can be used, or are refused in one line. -/
theorem readSettings_outcomes
    {name : Text} {bytes : Bytes}
    (named : name.IsOneLine)
    (handled : IsHandled bytes) :
    (∃ s, readSettings name bytes = .ok s ∧ s.IsUsable) ∨
      ∃ message, readSettings name bytes = .error (.reported message) ∧ message.IsOneLine := by
  have bad {message : Text} (short : message.IsOneLine) :
      (Text.ofString "Invalid config " ++ name ++ Text.ofString ": " ++ message).IsOneLine :=
    isOneLine_append.mpr ⟨isOneLine_between (by decide) named (by decide), short⟩
  unfold readSettings
  cases decoded : Utf8.decode .refused bytes with
  | error error =>
      exact Or.inr ⟨_, rfl, bad (error.isOneLine_message bytes)⟩
  | ok t =>
      dsimp only
      cases parsed : Json.readText t.unifyLineBreaks with
      | error failure =>
          cases failure with
          | syntaxError error =>
              exact Or.inr ⟨_, rfl, bad (isOneLine_syntaxMessage _ error)⟩
          | tooManyDigits count =>
              exact Or.inr
                ⟨_, rfl, bad (isOneLine_between (by decide) (isOneLine_ofNat count) (by decide))⟩
          | tooDeep =>
              exact absurd (nestsTooDeeply_of_readText parsed) (handled.shallow t decoded)
      | ok document =>
          have held : settingsDocument? bytes = some document := by
            simp [settingsDocument?, decoded, parsed, Except.toOption]
          dsimp only
          cases made : Settings.ofValue document with
          | error error =>
              have short := Settings.isOneLine_of_ofValue (handled.plain document held) made
              exact Or.inr ⟨_, rfl, bad short⟩
          | ok s =>
              refine Or.inl ⟨s, rfl, ?_⟩
              cases document with
              | obj members =>
                  have spelled := Json.Value.isSpellable_obj_iff.mp (Json.isSpellable_of_readText parsed)
                  exact Settings.isUsable_of_ofMembers (handled.shaped members s held made) spelled made
              | _ => cases made

variable {w : Workplace} {tools : Formatter.Toolbox} {arguments : List Text} {tree : FileTree}
  {disk : Disk} {l : Located} {s next : Settings} {o : OutputSettings} {path : FilePath} {code : Text}
  {failure : Failure}

theorem exists_withFormatter_of_isUsable
    (choice : Option FormatterChoice)
    (usable : s.IsUsable) :
    ∃ next, withFormatter choice s = .ok next ∧ next.IsUsable := by
  obtain ⟨f, group, ⟨kinds, named⟩⟩ := usable.formatter
  have present : s.formatterFor "enabled" = .ok f := Group.require_eq_ok_iff.mpr group
  have withName (name : Json.Value) (known : ∃ formatter, Formatter.named name = .ok formatter)
      (enabled : Json.Value) : ({ f with enabled, name } : FormatterSettings).IsUsable :=
    ⟨⟨kinds.lineLength, kinds.spelled, kinds.targetVersion, kinds.stringNormalization,
      kinds.magicTrailingComma⟩, known⟩
  cases choice with
  | none =>
      exact ⟨s, rfl, usable⟩
  | some choice =>
      rw [withFormatter, present]
      refine ⟨_, rfl, ⟨_, rfl, ?_⟩, usable.output⟩
      cases choice with
      | none => exact withName _ named _
      | black => exact withName _ ⟨.black, rfl⟩ _
      | ruff => exact withName _ ⟨.ruff, rfl⟩ _

theorem exists_withMode_of_isUsable
    (force : Bool)
    (usable : s.IsUsable) :
    ∃ next, withMode force s = .ok next ∧ next.IsUsable := by
  obtain ⟨o, group⟩ := usable.output
  cases force with
  | false =>
      exact ⟨s, rfl, usable⟩
  | true =>
      have present : s.outputFor "mode" = .ok o := Group.require_eq_ok_iff.mpr group
      rw [withMode, if_pos rfl, present]
      exact ⟨_, rfl, usable.formatter, _, rfl⟩

/-- The command line overrides nothing that is missing, and what it sets can be used. -/
theorem exists_override_of_isUsable
    (request : Request)
    (usable : s.IsUsable) :
    ∃ next, override request s = .ok next ∧ next.IsUsable := by
  obtain ⟨formatted, chosen, usable'⟩ := exists_withFormatter_of_isUsable request.formatter usable
  rw [override_eq, chosen, ok_bind]
  exact exists_withMode_of_isUsable request.force ⟨usable'.formatter, usable'.output⟩

/-- The names of the files of a run are on one line. -/
structure HasPlainPaths (w : Workplace) (l : Located) : Prop where
  config : ∀ path, l.config = some path → (fileName path).IsOneLine
  schema : (fileName l.path).IsOneLine
  output : ∀ path, l.output = some path → (FileTree.shownPath w.root path).IsOneLine

/-- The settings file of a run, if there is one, can be read and is handled. -/
def HasHandledSettings (tree : FileTree) (l : Located) : Prop :=
  ∀ path, l.config = some path → ∃ bytes, tree.content path = .ok bytes ∧ IsHandled bytes

theorem effectiveSettings_outcomes
    (paths : HasPlainPaths w l)
    (handled : HasHandledSettings tree l) :
    (∃ s, effectiveSettings w tree l = .ok s ∧ s.IsUsable) ∨
      ∃ message, effectiveSettings w tree l = .error (.reported message) ∧ message.IsOneLine := by
  have overridden {base : Settings} (usable : base.IsUsable) :
      ∃ next, unreported (override l.request base) = .ok next ∧ next.IsUsable := by
    obtain ⟨next, done, usable'⟩ := exists_override_of_isUsable l.request usable
    exact ⟨next, by rw [unreported, done, mapError_ok], usable'⟩
  unfold effectiveSettings
  cases configured : l.config with
  | none =>
      exact Or.inl (overridden Settings.isUsable_default)
  | some path =>
      obtain ⟨bytes, content, isHandled⟩ := handled path configured
      have found : readFile w tree path = .ok bytes := by rw [readFile, content]
      rcases readSettings_outcomes (paths.config path configured) isHandled with
        ⟨base, read, usable⟩ | ⟨message, refused, short⟩
      · simp only [found, read, ok_bind]
        exact Or.inl (overridden usable)
      · simp only [found, refused, ok_bind]
        exact Or.inr ⟨message, rfl, short⟩

/-! ## Writes -/

/-- What the write of a module can fail with. -/
inductive WriteFailure (base : Text) (path : FilePath) (code : Text) : Failure → Prop
  | refused : WriteFailure base path code (.generator (.output .invalidSyntax))
  | standing : WriteFailure base path code (.outputExists (FileTree.shownPath base path))
  | system (fault : SystemFault) (place : Text) : WriteFailure base path code (.system fault place)
  | unencodable : code.hasSurrogate = true → WriteFailure base path code .unencodable
  | nullCharacter : code.hasNull = true → WriteFailure base path code .nullCharacter

theorem failsOnly_writeOutput
    (base : Text) (path : FilePath) (code : Text) (o : OutputSettings) :
    FailsOnly (WriteFailure base path code) (writeOutput base path code o) := by
  have refusal (failure : Failure) (refused : checkOutput code = .error failure) :
      WriteFailure base path code failure := by
    unfold checkOutput at refused
    cases checked : Source.check code with
    | ok value =>
        rw [checked] at refused
        cases refused
    | error fault =>
        rw [checked] at refused
        rcases Source.fault_of_parse (Source.check_eq_error_iff.mp checked) with
          ⟨rfl, found⟩ | ⟨rfl, -, found⟩ | ⟨rfl, -⟩
        · cases refused
          exact .unencodable found
        · cases refused
          exact .nullCharacter found
        · cases refused
          exact .refused
  -- The check fails only as these do; the rest is the same for every way to write.
  have allows : Write.Allows (WriteFailure base path code) code
      (if o.validateBeforeWrite.isTruthy then some checkOutput else none) := by
    refine ⟨.system, .unencodable, fun failure refused => ?_⟩
    split at refused
    · exact refusal failure refused
    · cases refused
  unfold writeOutput
  by_cases atomic : o.atomicWrite.isTruthy = true
  · rw [if_pos atomic]
    by_cases forced : o.mode = .force
    · rw [if_pos forced]
      exact allows.failsOnly_atomically
    · rw [if_neg forced]
      exact failsOnly_bind (Write.failsOnly_requireFree .standing) fun _ =>
        allows.failsOnly_atomically
  · rw [if_neg atomic]
    by_cases refusing : o.mode = .errorIfExists
    · rw [if_pos refusing]
      exact failsOnly_bind (Write.failsOnly_requireFree .standing) fun _ => allows.failsOnly_directly
    · rw [if_neg refusing]
      exact allows.failsOnly_directly

/-! ## Streams -/

theorem afterTerminalSequence?_subset
    {t after : Text}
    (found : afterTerminalSequence? t = some after) :
    after ⊆ t := by
  unfold afterTerminalSequence? at found
  dsimp only at found
  split at found
  · split_ifs at found
    split at found
    · rename_i escape bracket rest _ _ letter behind spelled
      split_ifs at found
      cases found
      have inRest : letter :: after ⊆ rest := spelled ▸ (List.dropWhile_suffix _).subset
      exact fun c member => List.mem_cons_of_mem _ (List.mem_cons_of_mem _
        (inRest (List.mem_cons_of_mem _ member)))
    · cases found
  · cases found

theorem withoutTerminalSequences_subset (fuel : Nat) (t : Text) :
    withoutTerminalSequences fuel t ⊆ t := by
  induction fuel generalizing t with
  | zero =>
      exact List.Subset.refl t
  | succ fuel inductionHypothesis =>
      cases t with
      | nil =>
          exact List.Subset.refl []
      | cons c rest =>
          rw [withoutTerminalSequences]
          split
          · rename_i after found
            exact List.Subset.trans (inductionHypothesis after) (afterTerminalSequence?_subset found)
          · exact List.cons_subset_cons c (inductionHypothesis rest)

/-- What a stream shows has no surrogate that the text has not. -/
theorem hasSurrogate_of_streamed
    {t : Text}
    (shown : (streamed t).hasSurrogate = true) :
    t.hasSurrogate = true := by
  obtain ⟨c, member, surrogate⟩ := List.any_eq_true.mp shown
  exact List.any_eq_true.mpr ⟨c, withoutTerminalSequences_subset _ _ member, surrogate⟩

/-! ## Runs -/

/-- A report of success, or of an error in one line; what a formatter's command complains of is told in
its own words. -/
inductive Report.IsClean : Report → Prop
  | done (output errors : Text) : IsClean ⟨0, some (output, errors), none⟩
  | reported {message : Text} : message.IsOneLine → IsClean (Report.stopped (.reported message))
  | command (name reason : Text) :
      IsClean (Report.stopped (.reported (name ++ Text.ofString ": " ++
        (GeneratorError.formatting .ruff (.commandFailed reason)).message)))

/-- A failure that settings have no part in: the system refuses something, the command of a formatter does
not run or prints no text, or the generated code has a point that is not written, which the command line
or a formatter brings. -/
inductive Outside (w : Workplace) (tools : Formatter.Toolbox) (tree : FileTree) (l : Located) :
    Failure → Prop
  | system (fault : SystemFault) (place : Text) : Outside w tools tree l (.system fault place)
  | command {failure : Failure} :
      Formatter.IsObstacle tools.environment FormatterName.ruff.text failure →
        Outside w tools tree l failure
  | unencodable {s : Settings} {code : Text} :
      generated w tools tree l = .ok (s, code) → code.hasSurrogate = true →
        (shownRequest l).hasSurrogate = true ∨ Formatter.IsFormatted tools code →
          Outside w tools tree l .unencodable
  | nullCharacter {s : Settings} {code : Text} :
      generated w tools tree l = .ok (s, code) → code.hasNull = true →
        (shownRequest l).hasNull = true ∨ Formatter.IsFormatted tools code →
          Outside w tools tree l .nullCharacter

/-- Code whose points that are not written come from outside, if it has any. -/
structure HasOutsidePoints (w : Workplace) (tools : Formatter.Toolbox) (tree : FileTree) (l : Located)
    (code : Text) : Prop where
  surrogate : code.hasSurrogate = true → Outside w tools tree l .unencodable
  null : code.hasNull = true → Outside w tools tree l .nullCharacter

/-- A run ends well, or by a failure that settings have no part in. -/
def EndsWell (w : Workplace) (tools : Formatter.Toolbox) (tree : FileTree) (l : Located)
    (report : Report) : Prop :=
  report.IsClean ∨ ∃ failure, report = Report.stopped (.escaped failure) ∧
    Outside w tools tree l failure

section Located

variable {data : Bytes} {sample : Text}
  (spawned : tools.environment.IsSpawned)
  (paths : HasPlainPaths w l)
  (handled : HasHandledSettings tree l)
  (content : tree.content l.path = .ok data)
  (generates : ({} : Settings).generate tools (shownRequest l) (.octets data) = .ok sample)

include spawned paths handled content generates in
theorem generated_outcomes :
    (∃ s code, generated w tools tree l = .ok (s, code) ∧ s.IsUsable) ∨
      (∃ stop, generated w tools tree l = .error stop ∧ EndsWell w tools tree l (.stopped stop)) := by
  unfold generated
  rcases effectiveSettings_outcomes paths handled with
    ⟨s, effective, usable⟩ | ⟨message, refused, short⟩
  · have found : readFile w tree l.path = .ok data := by rw [readFile, content]
    rw [effective, ok_bind, found, ok_bind]
    cases made : s.generate tools (shownRequest l) (.octets data) with
    | ok code =>
        exact Or.inl ⟨s, code, rfl, usable⟩
    | error failure =>
        refine Or.inr ?_
        rcases Settings.generate_eq_error usable spawned generates made with
          ⟨error, rfl, raises⟩ | obstacle
        · refine ⟨_, rfl, Or.inl ?_⟩
          rcases raises.isOneLine_message with short | ⟨reason, rfl⟩
          · refine .reported ?_
            simp +decide [paths.schema, short]
          · exact .command _ reason
        · have outside : Outside w tools tree l failure := .command obstacle
          cases obstacle <;> exact ⟨_, rfl, Or.inr ⟨_, rfl, outside⟩⟩
  · rw [refused]
    exact Or.inr ⟨_, rfl, Or.inl (.reported short)⟩

include content generates in
theorem hasOutsidePoints_of_generated
    (located : (Request.ofWords? arguments).bind (locate? w tree) = some l)
    (made : generated w tools tree l = .ok (s, code)) :
    HasOutsidePoints w tools tree l code := by
  obtain ⟨same, again, generated⟩ := (generates_of_generated located made).code
  obtain rfl := Except.ok.inj (content.symm.trans again)
  obtain ⟨surrogates, nulls⟩ := Settings.any_of_generate generates generated
  exact ⟨fun found => .unencodable made found (surrogates found),
    fun found => .nullCharacter made found (nulls found)⟩

end Located

theorem endsWell_writeStop
    (outside : HasOutsidePoints w tools tree l code)
    (short : (FileTree.shownPath w.root path).IsOneLine)
    (fails : WriteFailure w.root path code failure) :
    EndsWell w tools tree l (Report.stopped (writeStop failure)) := by
  have escapes (failure : Failure) (own : Outside w tools tree l failure) :
      EndsWell w tools tree l (Report.stopped (.escaped failure)) := Or.inr ⟨_, rfl, own⟩
  cases fails with
  | refused =>
      exact Or.inl (.reported (isOneLine_literal (by decide)))
  | standing =>
      exact Or.inl (.reported (isOneLine_between (by decide) short (by decide)))
  | system fault place =>
      cases fault with
      | «exists» =>
          exact Or.inl (.reported (isOneLine_append.mpr
            ⟨isOneLine_append.mpr ⟨isOneLine_literal (by decide), isOneLine_literal (by decide)⟩,
              isOneLine_quoted place⟩))
      | _ => exact escapes _ (.system _ place)
  | unencodable found =>
      exact escapes _ (outside.surrogate found)
  | nullCharacter found =>
      exact escapes _ (outside.null found)

/-- A generated module that goes to a file gets there, or the write ends well. -/
theorem endsWell_deliverFile
    (outside : HasOutsidePoints w tools tree l code)
    (usable : s.IsUsable)
    (short : (FileTree.shownPath w.root path).IsOneLine) :
    EndsWell w tools tree l (deliverFile w path s code disk).1 := by
  obtain ⟨o, group⟩ := usable.output
  have present : s.outputFor "validate_before_write" = .ok o := Group.require_eq_ok_iff.mpr group
  have fails := failsOnly_writeOutput w.root path code o disk
  rw [deliverFile, present]
  dsimp only
  cases wrote : (writeOutput w.root path code o).outcome disk with
  | mk result behind =>
      rw [wrote] at fails
      cases result with
      | ok value => exact Or.inl (.done _ _)
      | error failure => exact endsWell_writeStop outside short (fails failure rfl)

/-- A run of a schema that generates with the default settings succeeds or reports one line, if its
settings file is handled, or it ends by a failure that settings have no part in. -/
theorem run_reports_settings
    {data : Bytes} {sample : Text}
    (spawned : tools.environment.IsSpawned)
    (located : (Request.ofWords? arguments).bind (locate? w disk.tree) = some l)
    (paths : HasPlainPaths w l)
    (handled : HasHandledSettings disk.tree l)
    (content : disk.tree.content l.path = .ok data)
    (generates : ({} : Settings).generate tools (shownRequest l) (.octets data) = .ok sample) :
    EndsWell w tools disk.tree l (run w tools arguments disk).1 := by
  unfold run
  rw [located]
  dsimp only
  rcases generated_outcomes spawned paths handled content generates with
    ⟨s, code, made, usable⟩ | ⟨stop, made, endsWell⟩
  · have outside := hasOutsidePoints_of_generated content generates located made
    rw [made]
    dsimp only
    cases output : l.output with
    | some path =>
        exact endsWell_deliverFile outside usable (paths.output path output)
    | none =>
        dsimp only
        split
        · rename_i shown
          exact Or.inr ⟨_, rfl, outside.surrogate (hasSurrogate_of_streamed shown)⟩
        · exact Or.inl (.done _ _)
  · rw [made]
    exact endsWell

/-- A schema that generates with the default settings. -/
def exampleSchema : String :=
  "\x7b\"$id\": \"point\", \"properties\": \x7b\"x\": \x7b\"type\": \"integer\"\x7d\x7d\x7d"

/-- A tree with that schema and a settings file. -/
def configuredTree (config : String) : FileTree :=
  ⟨[([.ofString "schema.json"], .file (Utf8.encode (.ofString exampleSchema))),
    ([.ofString "config.json"], .file (Utf8.encode (.ofString config)))]⟩

/-- The words that ask for a schema with a settings file. -/
def configuredWords : List Text :=
  [.ofString "schema.json", .ofString "--config", .ofString "config.json"]

/-- What those words ask for in such a tree. -/
def configuredLocated : Located :=
  ⟨⟨some (.ofString "config.json"), none, false, false, .ofString "schema.json", none⟩,
    some [.ofString "config.json"], [.ofString "schema.json"], none⟩

theorem exampleSchema_generates :
    (({} : Settings).generate .full (shownRequest configuredLocated)
      (.octets (Utf8.encode (.ofString exampleSchema)))).toOption.isSome = true := by
  rw [exampleSchema, Text.ofString_ofList]
  decide +kernel

/-- A settings file with a line length. -/
def lengthConfig : String := "\x7b\"formatter\": \x7b\"line_length\": 80\x7d\x7d"

/-- The settings of that file. -/
def lengthMembers : Json.Members :=
  [(.ofString "formatter", .obj [(.ofString "line_length", .int 80)])]

theorem isShaped_lengthMembers : Settings.IsShaped lengthMembers := by
  have notOutput : Text.ofString "output" ≠ Text.ofString "formatter" := by decide
  have notParts : Text.ofString "__dict__" ≠ Text.ofString "formatter" := by decide
  have notVersion : Text.ofString "line_length" ≠ Text.ofString "target_version" := by decide
  have notStrings : Text.ofString "line_length" ≠ Text.ofString "string_normalization" := by decide
  have notComma : Text.ofString "line_length" ≠ Text.ofString "magic_trailing_comma" := by decide
  constructor
  · intro value member
    obtain ⟨-, rfl⟩ := Prod.mk.inj (List.mem_singleton.mp member)
    refine ⟨_, rfl, fun option inside => ?_⟩
    obtain rfl := List.mem_singleton.mp inside
    exact ⟨fun _ => Or.inl ⟨80, rfl⟩, fun same => absurd same notVersion,
      fun same => absurd same notStrings, fun same => absurd same notComma⟩
  · intro value member
    exact absurd (Prod.mk.inj (List.mem_singleton.mp member)).1 notOutput
  · intro parts member
    exact absurd (Prod.mk.inj (List.mem_singleton.mp member)).1 notParts

theorem isHandled_lengthConfig : IsHandled (Utf8.encode (.ofString lengthConfig)) := by
  have decoded : Utf8.decode .refused (Utf8.encode (.ofString lengthConfig)) =
      .ok (.ofString lengthConfig) := by decide +kernel
  have few : (Json.tokens (Text.ofString lengthConfig).unifyLineBreaks).length ≤ Json.depthLimit := by
    decide +kernel
  have document : settingsDocument? (Utf8.encode (.ofString lengthConfig)) =
      some (.obj lengthMembers) := by decide +kernel
  constructor
  · intro t again
    obtain rfl := Except.ok.inj (decoded.symm.trans again)
    exact Json.not_nestsTooDeeply_of_length few
  · intro value held members options isObject member option inside
    obtain rfl := Option.some.inj (document.symm.trans held)
    cases isObject
    obtain ⟨-, same⟩ := Prod.mk.inj (List.mem_singleton.mp member)
    cases same
    obtain rfl := List.mem_singleton.mp inside
    decide
  · intro members s held read
    cases Option.some.inj (document.symm.trans held)
    exact isShaped_lengthMembers

theorem run_reports_settings_length :
    let tree := configuredTree lengthConfig
    HasHandledSettings tree configuredLocated ∧
      EndsWell examplePlace .full tree configuredLocated
        (run examplePlace .full configuredWords { tree }).1 := by
  intro tree
  have located : (Request.ofWords? configuredWords).bind (locate? examplePlace tree) =
      some configuredLocated := by decide +kernel
  have paths : HasPlainPaths examplePlace configuredLocated := by
    refine ⟨fun path same => ?_, by decide, fun path same => by cases same⟩
    cases same
    decide
  have handled : HasHandledSettings tree configuredLocated := by
    intro path same
    cases same
    exact ⟨_, rfl, isHandled_lengthConfig⟩
  obtain ⟨sample, generates⟩ := exists_ok_of_isSome exampleSchema_generates
  exact ⟨handled, run_reports_settings ⟨_, rfl⟩ located paths handled rfl generates⟩

/-- Settings with a number in place of the formatter options end a run by an error that is not
reported, though the schema generates with the default settings. -/
theorem run_escapes_number :
    let tree := configuredTree "\x7b\"formatter\": 5\x7d"
    (({} : Settings).generate .full (shownRequest configuredLocated)
        (.octets (Utf8.encode (.ofString exampleSchema)))).toOption.isSome = true ∧
      (run examplePlace .full configuredWords { tree }).1 =
        Report.stopped (.escaped (.settings (.missingPart (.ofString "int") (.ofString "enabled")))) :=
  ⟨exampleSchema_generates, by decide +kernel⟩

end Command
end RecordGen
