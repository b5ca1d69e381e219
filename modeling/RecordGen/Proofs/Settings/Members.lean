import RecordGen.Proofs.Outcome
import RecordGen.Settings.Document
import Mathlib.Tactic.SplitIfs

/-!
# Members of a settings object

What one member makes of settings. A member that is an object sets the options of the group it names;
no other member gives a group options. Beside the five options only four names do anything, and one of
these, the name of the export, only touches the export.
-/

namespace RecordGen

theorem Group.require_eq_ok_iff
    {α : Type} {group : Group α} {groupName name : Text} {a : α} :
    group.require groupName name = .ok a ↔ group = .options a := by
  cases group <;> simp [Group.require]

namespace Settings

/-! ## Reserved names -/

def Reserved.name : Reserved → Text
  | exporter => .ofString "to_dict"
  | ownClass => .ofString "__class__"
  | parts => .ofString "__dict__"
  | weakReference => .ofString "__weakref__"

theorem Reserved.eq_name_of_ofName?
    {text : Text} {reserved : Reserved}
    (spelled : Reserved.ofName? text = some reserved) :
    text = reserved.name := by
  unfold Reserved.ofName? at spelled
  split_ifs at spelled with exporter ownClass parts weakReference
  · cases spelled
    exact exporter
  · cases spelled
    exact ownClass
  · cases spelled
    exact parts
  · cases spelled
    exact weakReference

variable {s next : Settings} {name : Text} {value : Json.Value}

/-! ## Groups -/

/-- Assigning a value gives no group options that it did not have. -/
theorem options_of_assign
    (assigned : s.assign name value = .ok next) :
    (∀ f, next.formatter = .options f → s.formatter = .options f) ∧
      ∀ o, next.output = .options o → s.output = .options o := by
  unfold assign at assigned
  split_ifs at assigned with comment late capitalized formatter output
  · cases assigned
    exact ⟨fun _ same => same, fun _ same => same⟩
  · cases assigned
    exact ⟨fun _ same => same, fun _ same => same⟩
  · cases assigned
    exact ⟨fun _ same => same, fun _ same => same⟩
  · cases assigned
    exact ⟨fun _ replaced => (nomatch replaced), fun _ same => same⟩
  · cases assigned
    exact ⟨fun _ same => same, fun _ replaced => (nomatch replaced)⟩
  · split at assigned
    · cases assigned
      exact ⟨fun _ same => same, fun _ same => same⟩
    · cases assigned
      exact ⟨fun _ same => same, fun _ same => same⟩
    · cases assigned
    · cases assigned
    · split at assigned
      · cases assigned
        -- All parts are replaced at once: a group is then a plain value, or absent.
        constructor
        · intro f options
          simp only [ofParts] at options
          split at options <;> cases options
        · intro o options
          simp only [ofParts] at options
          split at options <;> cases options
      · cases assigned

/-- What reading a member does: it sets the options of one group from an object, or it gives no group
options. -/
theorem readMember_cases
    (read : s.readMember name value = .ok next) :
    (∃ members f, (name, value) = (Text.ofString "formatter", .obj members) ∧
        FormatterSettings.ofMembers members = .ok f ∧ next = { s with formatter := .options f }) ∨
      (∃ members o, (name, value) = (Text.ofString "output", .obj members) ∧
        OutputSettings.ofMembers members = .ok o ∧ next = { s with output := .options o }) ∨
        (∀ f, next.formatter = .options f → s.formatter = .options f) ∧
          ∀ o, next.output = .options o → s.output = .options o := by
  unfold readMember at read
  split at read
  · rename_i members
    split_ifs at read with isFormatter isOutput
    · obtain ⟨f, made, last⟩ := bind_eq_ok.mp read
      cases last
      exact Or.inl ⟨members, f, by rw [isFormatter], made, rfl⟩
    · obtain ⟨o, made, last⟩ := bind_eq_ok.mp read
      cases last
      exact Or.inr (Or.inl ⟨members, o, by rw [isOutput], made, rfl⟩)
    · exact Or.inr (Or.inr (options_of_assign read))
  · split_ifs at read
    · cases read
      exact Or.inr (Or.inr ⟨fun _ same => same, fun _ same => same⟩)
    · cases read
      exact Or.inr (Or.inr ⟨fun _ same => same, fun _ same => same⟩)
    · exact Or.inr (Or.inr (options_of_assign read))

/-- Formatter options behind a member stood before it, or the member is their object. -/
theorem formatter_of_readMember
    {f : FormatterSettings}
    (read : s.readMember name value = .ok next)
    (options : next.formatter = .options f) :
    s.formatter = .options f ∨
      ∃ members, (name, value) = (Text.ofString "formatter", .obj members) ∧
        FormatterSettings.ofMembers members = .ok f := by
  rcases readMember_cases read with
    ⟨members, f', isFormatter, made, rfl⟩ | ⟨members, o, -, -, rfl⟩ | ⟨kept, -⟩
  · cases options
    exact Or.inr ⟨members, isFormatter, made⟩
  · exact Or.inl options
  · exact Or.inl (kept f options)

/-- Output options behind a member stood before it, or the member is their object. -/
theorem output_of_readMember
    {o : OutputSettings}
    (read : s.readMember name value = .ok next)
    (options : next.output = .options o) :
    s.output = .options o ∨
      ∃ members, (name, value) = (Text.ofString "output", .obj members) ∧
        OutputSettings.ofMembers members = .ok o := by
  rcases readMember_cases read with
    ⟨members, f, -, -, rfl⟩ | ⟨members, o', isOutput, made, rfl⟩ | ⟨-, kept⟩
  · exact Or.inl options
  · cases options
    exact Or.inr ⟨members, isOutput, made⟩
  · exact Or.inl (kept o options)

/-! ## Names that are no option -/

def optionNames : List Text :=
  ["add_generation_comment", "use_future_annotations", "capitalize_field_names", "formatter",
    "output"].map Text.ofString

theorem readMember_of_not_group
    (noFormatter : name ≠ Text.ofString "formatter")
    (noOutput : name ≠ Text.ofString "output") :
    s.readMember name value = s.assign name value := by
  unfold readMember
  split
  · rw [if_neg noFormatter, if_neg noOutput]
  · rw [if_neg (fun both => noFormatter both.1), if_neg (fun both => noOutput both.1)]

/-- A name that is neither an option nor reserved has no effect. -/
theorem readMember_of_unknown
    (unknown : name ∉ optionNames)
    (unreserved : Reserved.ofName? name = none) :
    s.readMember name value = .ok s := by
  simp only [optionNames, List.map_cons, List.map_nil, List.mem_cons, List.not_mem_nil, or_false,
    not_or] at unknown
  obtain ⟨comment, late, capitalized, noFormatter, noOutput⟩ := unknown
  rw [readMember_of_not_group noFormatter noOutput, assign.eq_def]
  simp only [if_neg comment, if_neg late, if_neg capitalized, if_neg noFormatter, if_neg noOutput,
    unreserved]

/-- The name of the export sets what is in the way of the export, and nothing else. -/
theorem readMember_exporter :
    s.readMember Reserved.exporter.name value = .ok { s with exportValue := some value } :=
  readMember_of_not_group (by decide) (by decide)

end Settings
end RecordGen
