import RecordGen.Proofs.Settings.Members

/-!
# Settings written and read again

Settings that were read from an object and can be written as one are the settings that this object is
read as. Every option of both groups is written, so nothing is left to its default, and what is
written fits: the formatter has a name that settings accept, because such options are not made
otherwise, and a mode that can be written is one of the two that are read.
-/

namespace RecordGen

/-! ## Groups -/

theorem OutputMode.ofValue_of_toValue
    {mode : OutputMode} {value : Json.Value}
    (written : mode.toValue = .ok value) :
    ofValue value = .ok mode := by
  cases mode with
  | errorIfExists =>
      cases written
      rfl
  | force =>
      cases written
      rfl
  | other kept =>
      cases written

theorem OutputSettings.ofMembers_of_toMembers
    {o : OutputSettings} {members : Json.Members}
    (written : o.toMembers = .ok members) :
    ofMembers members = .ok o := by
  obtain ⟨mode, named, last⟩ := bind_eq_ok.mp written
  cases last
  have read := OutputMode.ofValue_of_toValue named
  have result : ofMembers [(.ofString "mode", mode),
      (.ofString "validate_before_write", o.validateBeforeWrite),
      (.ofString "atomic_write", o.atomicWrite)] =
        (OutputMode.ofValue mode >>= fun mode => .ok { o with mode }) := rfl
  rw [result, read]
  rfl

namespace FormatterSettings

/-- Written options set every option. -/
theorem setAll_toMembers (start f : FormatterSettings) : start.setAll f.toMembers = .ok f := rfl

/-- Options with an accepted name are read as they were written. -/
theorem ofMembers_toMembers
    {f : FormatterSettings}
    (accepted : f.checkName = .ok f) :
    ofMembers f.toMembers = .ok f := by
  rw [ofMembers, setAll_toMembers, ok_bind, accepted]

theorem checkName_of_ofMembers
    {f : FormatterSettings} {members : Json.Members}
    (made : ofMembers members = .ok f) :
    f.checkName = .ok f := by
  obtain ⟨set, -, checked⟩ := bind_eq_ok.mp made
  have same : set = f := by
    unfold checkName at checked
    split_ifs at checked
    exact Except.ok.inj checked
  rw [← same] at checked ⊢
  exact checked

end FormatterSettings

/-! ## Settings -/

namespace Settings

variable {s : Settings} {members : Json.Members} {exported : Json.Value}

/-- The formatter options, if they are there, have a name that settings accept. -/
def HasAcceptedName (s : Settings) : Prop := ∀ f, s.formatter = .options f → f.checkName = .ok f

/-- Every member keeps the name of the formatter accepted, so a whole object does. -/
theorem hasAcceptedName_of_ofMembers
    (read : ofMembers members = .ok s) :
    s.HasAcceptedName := by
  have start : ({} : Settings).HasAcceptedName := by
    intro f default
    cases default
    rfl
  refine foldlM_preserves (fun member _ before after accepted stepped => ?_) start read
  intro f options
  rcases formatter_of_readMember stepped options with old | ⟨inner, -, made⟩
  · exact accepted f old
  · exact FormatterSettings.checkName_of_ofMembers made

/-- What settings are written as, if they are: nothing is in the way of the export, both groups are
there, and the mode has a word. -/
theorem toValue_eq_ok_iff :
    s.toValue = .ok exported ↔
      ∃ f o options, s.exportValue = none ∧ s.formatter = .options f ∧ s.output = .options o ∧
        o.toMembers = .ok options ∧
          exported = .obj [(.ofString "add_generation_comment", s.addGenerationComment),
            (.ofString "use_future_annotations", s.useFutureAnnotations),
            (.ofString "capitalize_field_names", s.capitalizeFieldNames),
            (.ofString "formatter", .obj f.toMembers), (.ofString "output", .obj options)] := by
  unfold toValue
  cases s.exportValue with
  | some value => simp
  | none =>
      simp only [bind_eq_ok, formatterFor, outputFor, Group.require_eq_ok_iff]
      constructor
      · rintro ⟨f, formatter, o, output, options, written, last⟩
        cases last
        exact ⟨f, o, options, trivial, formatter, output, written, rfl⟩
      · rintro ⟨f, o, options, -, formatter, output, written, rfl⟩
        exact ⟨f, formatter, o, output, options, written, rfl⟩

/-- The members of an export are read one after the other, each into its own option. -/
theorem ofMembers_exported
    {comment late capitalized : Json.Value} {f : FormatterSettings} {o : OutputSettings}
    {options : Json.Members}
    (accepted : f.checkName = .ok f)
    (written : o.toMembers = .ok options) :
    ofMembers [(.ofString "add_generation_comment", comment),
        (.ofString "use_future_annotations", late), (.ofString "capitalize_field_names", capitalized),
        (.ofString "formatter", .obj f.toMembers), (.ofString "output", .obj options)] =
      .ok ⟨comment, late, capitalized, .options f, .options o, none⟩ := by
  have first : readMember {} (.ofString "add_generation_comment") comment =
      .ok { addGenerationComment := comment } :=
    readMember_of_not_group (by decide) (by decide)
  have second (s : Settings) : s.readMember (.ofString "use_future_annotations") late =
      .ok { s with useFutureAnnotations := late } :=
    readMember_of_not_group (by decide) (by decide)
  have third (s : Settings) : s.readMember (.ofString "capitalize_field_names") capitalized =
      .ok { s with capitalizeFieldNames := capitalized } :=
    readMember_of_not_group (by decide) (by decide)
  have fourth (s : Settings) : s.readMember (.ofString "formatter") (.obj f.toMembers) =
      (FormatterSettings.ofMembers f.toMembers >>= fun f => .ok { s with formatter := .options f }) :=
    rfl
  have fifth (s : Settings) : s.readMember (.ofString "output") (.obj options) =
      (OutputSettings.ofMembers options >>= fun o => .ok { s with output := .options o }) :=
    rfl
  simp only [ofMembers, List.foldlM_cons, List.foldlM_nil, first, second, third, fourth, fifth,
    ok_bind, FormatterSettings.ofMembers_toMembers accepted,
    OutputSettings.ofMembers_of_toMembers written]
  rfl

/-- Settings survive being written and read again. If an object is read as settings and these can be
written as an object, then that object is read, as the same settings, and these are written as the
same object again. -/
theorem exported_read_back
    (read : ofValue (.obj members) = .ok s)
    (written : s.toValue = .ok exported) :
    ∃ again, ofValue exported = .ok again ∧ again = s ∧ again.toValue = .ok exported := by
  obtain ⟨f, o, options, unreplaced, formatter, output, spelled, rfl⟩ := toValue_eq_ok_iff.mp written
  have accepted : f.checkName = .ok f := hasAcceptedName_of_ofMembers read f formatter
  refine ⟨s, ?_, rfl, written⟩
  obtain ⟨comment, late, capitalized, group, group', exporter⟩ := s
  cases formatter
  cases output
  cases unreplaced
  exact ofMembers_exported accepted spelled

/-- An object of settings with values of other kinds than the documented ones, a name that is no option,
and options that are missing. -/
def sparseMembers : Json.Members :=
  [(.ofString "output", .obj [(.ofString "mode", .str (.ofString "force")),
      (.ofString "bogus", .null)]),
    (.ofString "unknown_option", .int 1),
    (.ofString "add_generation_comment", .arr [.float .nan]),
    (.ofString "formatter", .obj [(.ofString "line_length", .str (.ofString "wide")),
      (.ofString "name", .str (.ofString "ruff"))])]

theorem exported_read_back_sparse :
    ∃ s exported, ofValue (.obj sparseMembers) = .ok s ∧ s.toValue = .ok exported ∧
      ∃ again, ofValue exported = .ok again ∧ again = s ∧ again.toValue = .ok exported := by
  have read : ofValue (.obj sparseMembers) = .ok _ := rfl
  exact ⟨_, _, read, rfl, exported_read_back read rfl⟩

end Settings
end RecordGen
