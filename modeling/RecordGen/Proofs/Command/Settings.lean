import RecordGen.Command.Run
import RecordGen.Proofs.Json.Names
import RecordGen.Proofs.Settings.Members

/-!
# Settings of a run

Where the settings of a run come from. The output options that are in force are the defaults or
those of the document's own object for them, whatever else the document says; the command line
overrides the formatter, the field names and the output mode, and nothing else.
-/

namespace RecordGen

theorem Json.Members.get?_of_mem
    {members : Json.Members} {name : Text} {value : Json.Value}
    (single : (members.map Prod.fst).Nodup)
    (member : (name, value) ∈ members) :
    members.get? name = some value := by
  induction members with
  | nil =>
      cases member
  | cons head rest inductionHypothesis =>
      obtain ⟨first, content⟩ := head
      obtain ⟨fresh, others⟩ := List.nodup_cons.mp single
      rcases List.mem_cons.mp member with here | later
      · obtain ⟨rfl, rfl⟩ := Prod.mk.inj here
        simp [get?]
      · have different : (name == first) = false := by
          rw [beq_eq_false_iff_ne]
          rintro rfl
          exact fresh (List.mem_map.mpr ⟨_, later, rfl⟩)
        rw [get?, List.lookup_cons, different]
        exact inductionHypothesis others later

namespace Settings

/-! ## Documents -/

/-- The object that a document gives for the output options. -/
def outputMembers? (document : Json.Value) : Option Json.Members :=
  match document with
  | .obj members =>
    match Json.Members.get? members (.ofString "output") with
    | some (.obj options) => some options
    | _ => none
  | _ => none

/-- The value that a document gives an output option. -/
def outputOption? (document : Json.Value) (name : String) : Option Json.Value :=
  (outputMembers? document).bind fun options => options.get? (.ofString name)

variable {s next : Settings} {o : OutputSettings} {document : Json.Value}

/-- Output options that are in force are the defaults, or those of a member of the document. -/
def OutputGiven (members : Json.Members) (s : Settings) : Prop :=
  ∀ o, s.output = .options o → o = {} ∨
    ∃ inner, (Text.ofString "output", .obj inner) ∈ members ∧ OutputSettings.ofMembers inner = .ok o

theorem outputGiven_of_ofMembers
    {members : Json.Members}
    (read : ofMembers members = .ok s) :
    OutputGiven members s := by
  have start : OutputGiven members {} := by
    intro o default
    exact Or.inl (Group.options.inj default).symm
  have kept : ∀ member ∈ members, ∀ state next : Settings, OutputGiven members state →
      state.readMember member.1 member.2 = .ok next → OutputGiven members next := by
    intro member present state next given stepped o options
    rcases output_of_readMember stepped options with old | ⟨inner, isOutput, made⟩
    · exact given o old
    · exact Or.inr ⟨inner, isOutput ▸ present, made⟩
  exact foldlM_preserves kept start read

/-- The output options of settings that are read are the defaults, or those that the document's
object for them spells. -/
theorem output_of_ofValue
    (single : document.NamesOnce)
    (read : ofValue document = .ok s)
    (options : s.output = .options o) :
    o = {} ∨ ∃ members, outputMembers? document = some members ∧
      OutputSettings.ofMembers members = .ok o := by
  cases document with
  | obj members =>
      cases single with
      | obj names _ =>
          rcases outputGiven_of_ofMembers read o options with default | ⟨inner, member, made⟩
          · exact Or.inl default
          · have found := Json.Members.get?_of_mem names member
            exact Or.inr ⟨inner, by simp [outputMembers?, found], made⟩
  | _ =>
      cases read

/-- Without the word for it in the document the mode is not to replace files, and it is none of the
two modes only if the document gives a mode that is no text. -/
theorem mode_of_ofMembers
    {members : Json.Members}
    (made : OutputSettings.ofMembers members = .ok o) :
    (o.mode = .force → members.get? (.ofString "mode") = some (.str (.ofString "force"))) ∧
      (∀ value, o.mode = .other value → members.get? (.ofString "mode") = some value ∧
        ∀ t, value ≠ .str t) ∧
      o.atomicWrite = (members.get? (.ofString "atomic_write")).getD (.bool true) := by
  unfold OutputSettings.ofMembers at made
  cases found : members.get? (.ofString "mode") with
  | none =>
      simp only [found] at made
      cases made
      simp
  | some given =>
      simp only [found] at made
      obtain ⟨mode, named, rest⟩ := bind_eq_ok.mp made
      cases rest
      unfold OutputMode.ofValue at named
      split at named
      · split_ifs at named <;> cases named <;> simp_all
      · cases named
        simp_all

end Settings

namespace Command

/-! ## Overrides -/

/-- What a choice of formatter makes of the formatter options. -/
inductive FormatterChosen :
    Option FormatterChoice → Group FormatterSettings → Group FormatterSettings → Prop
  | kept (group : Group FormatterSettings) : FormatterChosen none group group
  | disabled (f : FormatterSettings) :
      FormatterChosen (some .none) (.options f) (.options { f with enabled := .bool false })
  | named (choice : FormatterChoice) (f : FormatterSettings) : choice ≠ .none →
      FormatterChosen (some choice) (.options f)
        (.options { f with enabled := .bool true, name := .str choice.text })

/-- What the flag for replacing files makes of the output options. -/
inductive ModeChosen : Bool → Group OutputSettings → Group OutputSettings → Prop
  | kept (group : Group OutputSettings) : ModeChosen false group group
  | forced (o : OutputSettings) :
      ModeChosen true (.options o) (.options { o with mode := .force })

/-- What the command line makes of settings. -/
def Overridden (request : Request) (before after : Settings) : Prop :=
  ∃ formatter output,
    FormatterChosen request.formatter before.formatter formatter ∧
    ModeChosen request.force before.output output ∧
    after = { before with
      formatter, output,
      capitalizeFieldNames :=
        if request.capitalize then .bool true else before.capitalizeFieldNames }

/-- The settings with the formatter that the command line asks for. -/
def withFormatter (choice : Option FormatterChoice) (s : Settings) :
    Except SettingsError Settings :=
  match choice with
  | none => .ok s
  | some choice => do
    let f ← s.formatterFor "enabled"
    let f : FormatterSettings :=
      if choice = .none then { f with enabled := .bool false }
      else { f with enabled := .bool true, name := .str choice.text }
    return { s with formatter := .options f }

/-- The settings with the field names that the command line asks for. -/
def withFieldNames (capitalize : Bool) (s : Settings) : Settings :=
  { s with capitalizeFieldNames := if capitalize then .bool true else s.capitalizeFieldNames }

/-- The settings with the output mode that the command line asks for. -/
def withMode (force : Bool) (s : Settings) : Except SettingsError Settings :=
  if force then do
    let o ← s.outputFor "mode"
    return { s with output := .options { o with mode := .force } }
  else .ok s

theorem override_eq (request : Request) (s : Settings) :
    override request s = (withFormatter request.formatter s >>= fun formatted =>
      withMode request.force (withFieldNames request.capitalize formatted)) := by
  unfold override withFormatter withMode withFieldNames
  cases request.formatter with
  | none =>
      cases request.capitalize <;> rfl
  | some choice =>
      cases s.formatterFor "enabled" <;> cases request.capitalize <;> rfl

variable {request : Request} {s next : Settings}

theorem formatterChosen_of_withFormatter
    {choice : Option FormatterChoice}
    (done : withFormatter choice s = .ok next) :
    ∃ group, FormatterChosen choice s.formatter group ∧ next = { s with formatter := group } := by
  unfold withFormatter at done
  cases choice with
  | none =>
      cases done
      exact ⟨s.formatter, .kept _, rfl⟩
  | some choice =>
      obtain ⟨f, options, made⟩ := bind_eq_ok.mp done
      rw [Group.require_eq_ok_iff.mp options]
      cases made
      by_cases off : choice = .none
      · subst off
        exact ⟨_, .disabled f, rfl⟩
      · simp only [off, ↓reduceIte]
        exact ⟨_, .named choice f off, rfl⟩

theorem modeChosen_of_withMode
    {force : Bool}
    (done : withMode force s = .ok next) :
    ∃ group, ModeChosen force s.output group ∧ next = { s with output := group } := by
  unfold withMode at done
  cases force with
  | false =>
      cases done
      exact ⟨s.output, .kept _, rfl⟩
  | true =>
      obtain ⟨o, options, made⟩ := bind_eq_ok.mp done
      rw [Group.require_eq_ok_iff.mp options]
      cases made
      exact ⟨_, .forced o, rfl⟩

theorem overridden_of_override
    (done : override request s = .ok next) :
    Overridden request s next := by
  rw [override_eq] at done
  obtain ⟨formatted, first, second⟩ := bind_eq_ok.mp done
  obtain ⟨formatter, chosenFormatter, rfl⟩ := formatterChosen_of_withFormatter first
  obtain ⟨output, chosenMode, rfl⟩ := modeChosen_of_withMode second
  exact ⟨formatter, output, chosenFormatter, chosenMode, rfl⟩

/-! ## Settings files -/

/-- The document that a settings file holds. -/
def settingsDocument? (bytes : Bytes) : Option Json.Value := do
  let t ← (Utf8.decode .refused bytes).toOption
  (Json.readText t.unifyLineBreaks).toOption

variable {bytes : Bytes} {document : Json.Value}

theorem namesOnce_of_settingsDocument
    (held : settingsDocument? bytes = some document) :
    document.NamesOnce := by
  obtain ⟨t, -, read⟩ := Option.bind_eq_some_iff.mp held
  have value : (Json.Document.text t.unifyLineBreaks).value = .ok document := by
    rw [Json.Document.value, mapError_eq_ok]
    cases parsed : Json.readText t.unifyLineBreaks with
    | ok value =>
        rw [parsed] at read
        exact congrArg Except.ok (Option.some.inj read)
    | error failure =>
        rw [parsed] at read
        cases read
  exact Json.namesOnce_of_value value

theorem document_of_readSettings
    {name : Text}
    (read : readSettings name bytes = .ok s) :
    ∃ document, settingsDocument? bytes = some document ∧ Settings.ofValue document = .ok s := by
  unfold readSettings at read
  cases decoded : Utf8.decode .refused bytes with
  | error error =>
      simp [decoded] at read
  | ok t =>
      cases parsed : Json.readText t.unifyLineBreaks with
      | error failure =>
          cases failure <;> simp [decoded, parsed] at read
      | ok document =>
          cases made : Settings.ofValue document with
          | error error =>
              simp [decoded, parsed, made] at read
          | ok settings =>
              simp only [decoded, parsed, made, Except.ok.injEq] at read
              subst read
              exact ⟨document, by simp [settingsDocument?, decoded, parsed, Except.toOption], made⟩

/-- The settings before the command line overrides them: the defaults without a settings file, or
else what its document says. -/
inductive FileSettings (tree : FileTree) : Option FilePath → Settings → Prop
  | defaults : FileSettings tree none {}
  | document {path : FilePath} {bytes : Bytes} {document : Json.Value} {s : Settings} :
      tree.content path = .ok bytes → settingsDocument? bytes = some document →
        Settings.ofValue document = .ok s → FileSettings tree (some path) s

variable {w : Workplace} {tree : FileTree} {l : Located}

theorem content_of_readFile
    {path : FilePath}
    (read : readFile w tree path = .ok bytes) :
    tree.content path = .ok bytes := by
  unfold readFile at read
  cases found : tree.content path with
  | ok content =>
      simpa [found] using read
  | error fault =>
      simp [found] at read

theorem overridden_of_effectiveSettings
    (done : effectiveSettings w tree l = .ok s) :
    ∃ base, FileSettings tree l.config base ∧ Overridden l.request base s := by
  unfold effectiveSettings unreported at done
  cases configured : l.config with
  | none =>
      simp only [configured, pure_bind, mapError_eq_ok] at done
      exact ⟨_, .defaults, overridden_of_override done⟩
  | some path =>
      simp only [configured] at done
      obtain ⟨bytes, found, rest⟩ := bind_eq_ok.mp done
      obtain ⟨base, read, overriding⟩ := bind_eq_ok.mp rest
      obtain ⟨document, held, made⟩ := document_of_readSettings read
      exact ⟨base, .document (content_of_readFile found) held made,
        overridden_of_override (mapError_eq_ok.mp overriding)⟩

end Command
end RecordGen
