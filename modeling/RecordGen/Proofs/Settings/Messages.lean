import RecordGen.Failure
import RecordGen.Proofs.Outcome
import RecordGen.Proofs.Text.OneLine

/-!
# Messages about settings

A settings object that is refused is refused with a message on one line, whatever its values are: they
are shown on one line, and their kinds have fixed names. Only the name of an option that does not exist
gets into a message as it is.
-/

namespace RecordGen

open Text

/-! ## Formatter options -/

namespace FormatterSettings

variable {s next : FormatterSettings} {members : Json.Members} {error : SettingsError}

theorem isOneLine_of_setAll
    (names : ∀ member ∈ members, member.1.IsOneLine)
    (failed : s.setAll members = .error error) :
    error.message.IsOneLine := by
  induction members generalizing s with
  | nil =>
      cases failed
  | cons member rest inductionHypothesis =>
      obtain ⟨own, others⟩ := List.forall_mem_cons.mp names
      unfold setAll at failed
      split_ifs at failed
      · cases failed
        exact isOneLine_between (by decide) own (by decide)
      · split at failed
        · exact inductionHypothesis others failed
        · cases failed
          exact isOneLine_between (by decide) own (by decide)

theorem isOneLine_of_ofMembers
    (names : ∀ member ∈ members, member.1.IsOneLine)
    (failed : ofMembers members = .error error) :
    error.message.IsOneLine := by
  rcases bind_eq_error.mp failed with refused | ⟨options, -, unknown⟩
  · exact isOneLine_of_setAll names refused
  · unfold checkName at unknown
    split_ifs at unknown
    cases unknown
    have shown := options.name.isOneLine_shown
    exact isOneLine_between (by decide) shown (by decide)

end FormatterSettings

theorem OutputSettings.isOneLine_of_ofMembers
    {members : Json.Members} {error : SettingsError}
    (failed : OutputSettings.ofMembers members = .error error) :
    error.message.IsOneLine := by
  unfold ofMembers at failed
  split at failed
  · cases failed
  · rcases bind_eq_error.mp failed with refused | ⟨mode, -, last⟩
    · unfold OutputMode.ofValue at refused
      split at refused
      · split_ifs at refused
        cases refused
        exact isOneLine_append.mpr ⟨isOneLine_quoted _, isOneLine_literal (by decide)⟩
      · cases refused
    · cases last

/-! ## All settings -/

namespace Settings

variable {s : Settings} {error : SettingsError} {name : Text} {value : Json.Value}

theorem isOneLine_of_assign
    (failed : s.assign name value = .error error) :
    error.message.IsOneLine := by
  have kind := value.isOneLine_kindName
  unfold assign at failed
  split_ifs at failed
  split at failed
  · cases failed
  · cases failed
  · cases failed
    exact isOneLine_between (by decide) kind (by decide)
  · cases failed
    exact isOneLine_literal (by decide)
  · split at failed <;> cases failed
    exact isOneLine_between (by decide) kind (by decide)

/-- The formatter options of a settings object have names on one line. -/
def HasPlainNames (document : Json.Value) : Prop :=
  ∀ members options, document = .obj members →
    (Text.ofString "formatter", Json.Value.obj options) ∈ members →
      ∀ option ∈ options, option.1.IsOneLine

theorem isOneLine_of_readMember
    {members : Json.Members} {member : Text × Json.Value}
    (plain : HasPlainNames (.obj members))
    (present : member ∈ members)
    (failed : s.readMember member.1 member.2 = .error error) :
    error.message.IsOneLine := by
  obtain ⟨name, value⟩ := member
  unfold readMember at failed
  split at failed
  · rename_i inner isObject
    obtain rfl : value = .obj inner := isObject
    by_cases isFormatter : name = Text.ofString "formatter"
    · rw [if_pos isFormatter] at failed
      rw [isFormatter] at present
      rcases bind_eq_error.mp failed with refused | ⟨f, -, last⟩
      · exact FormatterSettings.isOneLine_of_ofMembers (plain members inner rfl present) refused
      · cases last
    · by_cases isOutput : name = Text.ofString "output"
      · rw [if_neg isFormatter, if_pos isOutput] at failed
        rcases bind_eq_error.mp failed with refused | ⟨o, -, last⟩
        · exact OutputSettings.isOneLine_of_ofMembers refused
        · cases last
      · rw [if_neg isFormatter, if_neg isOutput] at failed
        exact isOneLine_of_assign failed
  · split_ifs at failed
    exact isOneLine_of_assign failed

/-- The message about settings that are refused is on one line. -/
theorem isOneLine_of_ofValue
    {document : Json.Value}
    (plain : HasPlainNames document)
    (failed : ofValue document = .error error) :
    error.message.IsOneLine := by
  unfold ofValue at failed
  split at failed
  · obtain ⟨before, member, after, state, rfl, -, refused⟩ := exists_step_eq_error failed
    exact isOneLine_of_readMember plain (by simp) refused
  · cases failed
    have kind := document.isOneLine_kindName
    exact isOneLine_append.mpr
      ⟨isOneLine_append.mpr
        ⟨isOneLine_between (by decide) kind (by decide), isOneLine_literal (by decide)⟩,
      isOneLine_literal (by decide)⟩

end Settings
end RecordGen
