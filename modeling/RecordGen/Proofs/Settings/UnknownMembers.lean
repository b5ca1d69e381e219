import RecordGen.Proofs.Settings.Members
import RecordGen.Record.Emit

/-!
# Members that are no option

A member of a settings object whose name is neither an option nor reserved is as good as absent,
wherever it stands. The name of the export is nearly so: it spoils the export alone, and no generated
module shows it. Of the other three reserved names this is not true.
-/

namespace RecordGen.Settings

variable {s t : Settings} {name : Text} {value : Json.Value} {front back members : Json.Members}

/-! ## Settings but for the export -/

/-- The settings with nothing in the way of their export. -/
def unblocked (s : Settings) : Settings := { s with exportValue := none }

theorem unblocked_assign :
    (s.unblocked.assign name value).map unblocked = (s.assign name value).map unblocked := by
  unfold assign
  split_ifs
  · rfl
  · rfl
  · rfl
  · rfl
  · rfl
  · split
    · rfl
    · rfl
    · rfl
    · rfl
    · split <;> rfl

/-- What stands in the way of the export decides nothing about how a member is read. -/
theorem unblocked_readMember :
    (s.unblocked.readMember name value).map unblocked = (s.readMember name value).map unblocked := by
  unfold readMember
  split
  · rename_i options
    split_ifs
    · cases FormatterSettings.ofMembers options <;> rfl
    · cases OutputSettings.ofMembers options <;> rfl
    · exact unblocked_assign
  · have sameFormatter : s.unblocked.formatter = s.formatter := rfl
    have sameOutput : s.unblocked.output = s.output := rfl
    by_cases noFormatter : name = Text.ofString "formatter" ∧ s.formatter = .absent
    · rw [if_pos (by rwa [sameFormatter]), if_pos noFormatter]
      rfl
    · by_cases noOutput : name = Text.ofString "output" ∧ s.output = .absent
      · rw [if_neg (by rwa [sameFormatter]), if_pos (by rwa [sameOutput]), if_neg noFormatter,
          if_pos noOutput]
        rfl
      · rw [if_neg (by rwa [sameFormatter]), if_neg (by rwa [sameOutput]), if_neg noFormatter,
          if_neg noOutput]
        exact unblocked_assign

theorem map_unblocked_readMember_congr
    (same : s.unblocked = t.unblocked) :
    (s.readMember name value).map unblocked = (t.readMember name value).map unblocked := by
  rw [← unblocked_readMember, same, unblocked_readMember]

/-- Generated modules do not depend on what stands in the way of the export. -/
theorem emit_congr_unblocked
    (same : s.unblocked = t.unblocked)
    (tools : Formatter.Toolbox) (commandLine : Text) (schema : Schema) :
    s.emit tools commandLine schema = t.emit tools commandLine schema := by
  have ofUnblocked (s : Settings) :
      s.unblocked.emit tools commandLine schema = s.emit tools commandLine schema := rfl
  rw [← ofUnblocked s, same, ofUnblocked]

/-! ## One member more -/

theorem ofMembers_append_cons :
    ofMembers (front ++ (name, value) :: back) = (ofMembers front >>= fun before =>
      before.readMember name value >>= fun behind =>
        back.foldlM (fun s (name, value) => s.readMember name value) behind) := by
  simp only [ofMembers, List.foldlM_append, List.foldlM_cons]

theorem ofMembers_append :
    ofMembers (front ++ back) = (ofMembers front >>= fun before =>
      back.foldlM (fun s (name, value) => s.readMember name value) before) := by
  simp only [ofMembers, List.foldlM_append]

/-- A name that is neither an option nor reserved is as good as absent. -/
theorem ofMembers_of_unknown
    (unknown : name ∉ optionNames)
    (unreserved : Reserved.ofName? name = none) :
    ofMembers (front ++ (name, value) :: back) = ofMembers (front ++ back) := by
  rw [ofMembers_append_cons, ofMembers_append]
  simp only [readMember_of_unknown unknown unreserved, ok_bind]

/-- The name of the export is as good as absent but for the export. -/
theorem map_unblocked_ofMembers_exporter :
    (ofMembers (front ++ (Reserved.exporter.name, value) :: back)).map unblocked =
      (ofMembers (front ++ back)).map unblocked := by
  rw [ofMembers_append_cons, ofMembers_append]
  simp only [readMember_exporter, ok_bind]
  cases ofMembers front with
  | error error => rfl
  | ok before =>
      -- The members behind are read from settings that differ in nothing that they look at.
      rw [ok_bind, ok_bind]
      refine map_foldlM_congr (fun member _ left right same => ?_) ?_
      · exact map_unblocked_readMember_congr same
      · rfl

/-- A member that is no option changes nothing, wherever it stands, unless its name is reserved: an
object with it is refused as the object without it is, or it is read as the same settings. The name of
the export is reserved only for the export. With it an object is refused as without it, and otherwise
all that the settings generate is the same. -/
theorem ofValue_ignores_unknown
    (unknown : name ∉ optionNames)
    (harmless : ∀ reserved, Reserved.ofName? name = some reserved → reserved = .exporter) :
    (∀ error, ofValue (.obj (front ++ (name, value) :: back)) = .error error ↔
        ofValue (.obj (front ++ back)) = .error error) ∧
      ∀ s, ofValue (.obj (front ++ back)) = .ok s →
        ∃ t, ofValue (.obj (front ++ (name, value) :: back)) = .ok t ∧
          (Reserved.ofName? name = none → t = s ∧ t.toValue = s.toValue) ∧
          (∀ tools commandLine schema, t.emit tools commandLine schema =
            s.emit tools commandLine schema) ∧
          ∀ tools commandLine document, t.generate tools commandLine document =
            s.generate tools commandLine document := by
  change (∀ error, ofMembers (front ++ (name, value) :: back) = .error error ↔
    ofMembers (front ++ back) = .error error) ∧ ∀ s, ofMembers (front ++ back) = .ok s →
      ∃ t, ofMembers (front ++ (name, value) :: back) = .ok t ∧ _
  cases spelled : Reserved.ofName? name with
  | none =>
      rw [ofMembers_of_unknown unknown spelled]
      exact ⟨fun _ => Iff.rfl, fun s read => ⟨s, read, fun _ => ⟨rfl, rfl⟩, fun _ _ _ => rfl,
        fun _ _ _ => rfl⟩⟩
  | some reserved =>
      obtain rfl := harmless reserved spelled
      obtain rfl := Reserved.eq_name_of_ofName? spelled
      have same := @map_unblocked_ofMembers_exporter value front back
      constructor
      · intro error
        rw [← map_eq_error (f := unblocked), same, map_eq_error]
      · intro s read
        rw [read] at same
        obtain ⟨t, extended, sameParts⟩ := map_eq_ok.mp same
        have emits (tools : Formatter.Toolbox) (commandLine : Text) (schema : Schema) :=
          emit_congr_unblocked sameParts tools commandLine schema
        refine ⟨t, extended, fun unreserved => (nomatch unreserved), emits, ?_⟩
        intro tools commandLine document
        simp only [generate, emits]

theorem ofValue_ignores_unknown_strict :
    Text.ofString "strict" ∉ optionNames ∧
      ∃ s t, ofValue (.obj [(.ofString "output", .obj []), (.ofString "formatter", .null)]) = .ok s ∧
        ofValue (.obj [(.ofString "output", .obj []), (.ofString "strict", .bool true),
          (.ofString "formatter", .null)]) = .ok t ∧ t.toValue = s.toValue := by
  have unknown : Text.ofString "strict" ∉ optionNames := by decide
  have unreserved : Reserved.ofName? (.ofString "strict") = none := by decide
  have harmless (reserved : Reserved)
      (spelled : Reserved.ofName? (.ofString "strict") = some reserved) : reserved = .exporter := by
    rw [unreserved] at spelled
    cases spelled
  obtain ⟨-, kept⟩ := @ofValue_ignores_unknown (.ofString "strict") (.bool true)
    [(.ofString "output", .obj [])] [(.ofString "formatter", .null)] unknown harmless
  obtain ⟨t, extended, same, -⟩ := kept _ rfl
  exact ⟨unknown, _, t, rfl, extended, (same unreserved).2⟩

/-- A reserved name is no option either, and yet its member counts: the name of the export takes the
export away, and with a number as its value each of the other three takes away the settings. -/
theorem ofValue_heeds_reserved :
    (∀ reserved : Reserved, reserved.name ∉ optionNames) ∧
      (∃ exported, (ofValue (.obj []) >>= toValue) = .ok exported) ∧
      (ofValue (.obj [(Reserved.exporter.name, .int 1)]) >>= toValue) =
        .error (.exportReplaced (.ofString "int")) ∧
      ofValue (.obj [(Reserved.ownClass.name, .int 1)]) =
        .error (.classRefused (.ofString "int")) ∧
      ofValue (.obj [(Reserved.parts.name, .int 1)]) = .error (.partsRefused (.ofString "int")) ∧
      ofValue (.obj [(Reserved.weakReference.name, .int 1)]) = .error .weakReferenceRefused :=
  ⟨fun reserved => by cases reserved <;> decide, ⟨_, rfl⟩, rfl, rfl, rfl, rfl⟩

end RecordGen.Settings
