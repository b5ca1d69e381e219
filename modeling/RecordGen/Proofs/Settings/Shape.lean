import RecordGen.Proofs.Formatter.Outcomes
import RecordGen.Proofs.Json.Limits
import RecordGen.Proofs.Settings.Members
import RecordGen.Settings.Document
import Mathlib.Tactic.SplitIfs

/-!
# The shape of settings

Settings are read without a look at most of their kinds. Those of a document whose groups are objects,
and whose formatter options are of the kinds that are documented, can be used throughout: both groups
are there, and so are the kinds and the formatter that are looked for later.
-/

namespace RecordGen

namespace FormatterSettings

/-- A value is of the kind that its formatter option is documented with. -/
structure Fits (name : Text) (value : Json.Value) : Prop where
  lineLength : name = Text.ofString "line_length" → IsLength value
  targetVersion : name = Text.ofString "target_version" → IsVersion value
  stringNormalization : name = Text.ofString "string_normalization" → IsFlag value
  magicTrailingComma : name = Text.ofString "magic_trailing_comma" → IsFlag value

/-- The options have their kinds, and their name is that of a formatter. -/
structure IsUsable (s : FormatterSettings) : Prop where
  kinds : s.HasKinds
  named : ∃ formatter, Formatter.named s.name = .ok formatter

theorem isUsable_default : ({} : FormatterSettings).IsUsable := ⟨hasKinds_default, .black, rfl⟩

variable {s next : FormatterSettings}

theorem hasKinds_of_set?
    {name : Text} {value : Json.Value}
    (kinds : s.HasKinds)
    (fits : Fits name value)
    (spelled : value.isSpellable = true)
    (done : s.set? name value = some next) :
    next.HasKinds := by
  obtain ⟨length, lengthSpelled, version, normalization, comma⟩ := kinds
  unfold set? at done
  split_ifs at done with enabled named isLength isVersion isNormalization isComma
  · cases done
    exact ⟨length, lengthSpelled, version, normalization, comma⟩
  · cases done
    exact ⟨length, lengthSpelled, version, normalization, comma⟩
  · cases done
    exact ⟨fits.lineLength isLength, spelled, version, normalization, comma⟩
  · cases done
    exact ⟨length, lengthSpelled, fits.targetVersion isVersion, normalization, comma⟩
  · cases done
    exact ⟨length, lengthSpelled, version, fits.stringNormalization isNormalization, comma⟩
  · cases done
    exact ⟨length, lengthSpelled, version, normalization, fits.magicTrailingComma isComma⟩

theorem hasKinds_of_setAll
    {members : Json.Members}
    (fit : ∀ member ∈ members, Fits member.1 member.2)
    (spelled : ∀ member ∈ members, member.2.isSpellable = true)
    (kinds : s.HasKinds)
    (done : s.setAll members = .ok next) :
    next.HasKinds := by
  induction members generalizing s with
  | nil =>
      cases done
      exact kinds
  | cons member rest inductionHypothesis =>
      obtain ⟨first, others⟩ := List.forall_mem_cons.mp fit
      obtain ⟨firstSpelled, othersSpelled⟩ := List.forall_mem_cons.mp spelled
      unfold setAll at done
      split_ifs at done
      split at done
      · rename_i changed set
        exact inductionHypothesis others othersSpelled
          (hasKinds_of_set? kinds first firstSpelled set) done
      · cases done

theorem isUsable_of_checkName
    (kinds : s.HasKinds)
    (done : s.checkName = .ok next) :
    next.IsUsable := by
  unfold checkName at done
  split_ifs at done with known
  cases done
  simp only [names, List.any_cons, List.any_nil, Bool.or_false, Bool.or_eq_true,
    decide_eq_true_eq] at known
  rcases known with black | ruff
  · exact ⟨kinds, .black, by rw [black]; rfl⟩
  · exact ⟨kinds, .ruff, by rw [ruff]; rfl⟩

/-- Formatter options that are read from an object with fitting values can be used. -/
theorem isUsable_of_ofMembers
    {members : Json.Members}
    (fit : ∀ member ∈ members, Fits member.1 member.2)
    (spelled : ∀ member ∈ members, member.2.isSpellable = true)
    (read : ofMembers members = .ok s) :
    s.IsUsable := by
  obtain ⟨set, done, checked⟩ := bind_eq_ok.mp read
  exact isUsable_of_checkName (hasKinds_of_setAll fit spelled hasKinds_default done) checked

end FormatterSettings

namespace Settings

/-- Both groups are there, and the formatter options can be used. -/
structure IsUsable (s : Settings) : Prop where
  formatter : ∃ f, s.formatter = .options f ∧ f.IsUsable
  output : ∃ o, s.output = .options o

theorem isUsable_default : ({} : Settings).IsUsable :=
  ⟨⟨_, rfl, FormatterSettings.isUsable_default⟩, ⟨_, rfl⟩⟩

/-- The shape of a settings object: its groups are objects, the formatter options fit, and no member
replaces all parts at once. -/
structure IsShaped (members : Json.Members) : Prop where
  formatter : ∀ value, (Text.ofString "formatter", value) ∈ members →
    ∃ options, value = .obj options ∧
      ∀ option ∈ options, FormatterSettings.Fits option.1 option.2
  output : ∀ value, (Text.ofString "output", value) ∈ members → ∃ options, value = .obj options
  parts : ∀ parts, (Text.ofString "__dict__", .obj parts) ∉ members

variable {s next : Settings}

/-- A member that is no group and does not replace all parts leaves the groups alone. -/
theorem groups_of_assign
    {name : Text} {value : Json.Value}
    (noFormatter : name ≠ Text.ofString "formatter")
    (noOutput : name ≠ Text.ofString "output")
    (noParts : ∀ parts, (name, value) ≠ (Text.ofString "__dict__", .obj parts))
    (done : s.assign name value = .ok next) :
    next.formatter = s.formatter ∧ next.output = s.output := by
  unfold assign at done
  split_ifs at done
  · cases done
    exact ⟨rfl, rfl⟩
  · cases done
    exact ⟨rfl, rfl⟩
  · cases done
    exact ⟨rfl, rfl⟩
  · split at done
    · cases done
      exact ⟨rfl, rfl⟩
    · cases done
      exact ⟨rfl, rfl⟩
    · cases done
    · cases done
    · rename_i isParts
      split at done
      · rename_i parts
        exact absurd (by rw [Reserved.eq_name_of_ofName? isParts]; rfl) (noParts parts)
      · cases done

/-- Reading a member keeps settings usable, if its object has the shape. -/
theorem isUsable_of_readMember
    {members : Json.Members} {member : Text × Json.Value}
    (shaped : IsShaped members)
    (present : member ∈ members)
    (spelled : member.2.isSpellable = true)
    (usable : s.IsUsable)
    (read : s.readMember member.1 member.2 = .ok next) :
    next.IsUsable := by
  obtain ⟨name, value⟩ := member
  have noParts : ∀ parts, (name, value) ≠ (Text.ofString "__dict__", .obj parts) := by
    rintro parts same
    rw [same] at present
    exact shaped.parts parts present
  obtain ⟨⟨f, options, usableOptions⟩, o, outputs⟩ := usable
  unfold readMember at read
  by_cases isFormatter : name = Text.ofString "formatter"
  · rw [isFormatter] at present read
    obtain ⟨inner, rfl, fit⟩ := shaped.formatter value present
    obtain ⟨f', made, last⟩ := bind_eq_ok.mp read
    have parts := Json.Value.isSpellable_obj_iff.mp spelled
    cases last
    exact ⟨⟨f', rfl, FormatterSettings.isUsable_of_ofMembers fit parts made⟩, o, outputs⟩
  · by_cases isOutput : name = Text.ofString "output"
    · rw [isOutput] at present read
      obtain ⟨inner, rfl⟩ := shaped.output value present
      obtain ⟨o', made, last⟩ := bind_eq_ok.mp read
      cases last
      exact ⟨⟨f, options, usableOptions⟩, o', rfl⟩
    -- Any other member leaves both groups, unless it replaces all parts at once.
    · have assigned : s.assign name value = .ok next := by
        split at read <;> simpa [isFormatter, isOutput] using read
      obtain ⟨sameFormatter, sameOutput⟩ := groups_of_assign isFormatter isOutput noParts assigned
      rw [← sameFormatter] at options
      rw [← sameOutput] at outputs
      exact ⟨⟨f, options, usableOptions⟩, o, outputs⟩

/-- Settings that are read from an object of the shape can be used. -/
theorem isUsable_of_ofMembers
    {members : Json.Members}
    (shaped : IsShaped members)
    (spelled : ∀ member ∈ members, member.2.isSpellable = true)
    (read : ofMembers members = .ok s) :
    s.IsUsable :=
  foldlM_preserves
    (fun member present _ _ usable stepped =>
      isUsable_of_readMember shaped present (spelled member present) usable stepped)
    isUsable_default read

end Settings
end RecordGen
