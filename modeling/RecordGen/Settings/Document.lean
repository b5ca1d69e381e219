import RecordGen.Settings.Formatter
import RecordGen.Settings.Output

/-!
# Settings as documents

Settings are read from an object member by member over the defaults, written back as an object, and
changed part by part while they are in use.
-/

namespace RecordGen.Settings

/-! ## Reading -/

/-- The settings whose parts are just these members. Single options that are missing have their
defaults; groups that are missing are absent. -/
def ofParts (members : Json.Members) : Settings :=
  let part (name : String) (default : Json.Value) : Json.Value :=
    (members.get? (.ofString name)).getD default
  let group {α : Type} (name : String) : Group α :=
    match members.get? (.ofString name) with
    | some value => .replaced value
    | none => .absent
  { addGenerationComment := part "add_generation_comment" (.bool true)
    useFutureAnnotations := part "use_future_annotations" (.bool true)
    capitalizeFieldNames := part "capitalize_field_names" (.bool false)
    formatter := group "formatter"
    output := group "output"
    exportValue := members.get? (.ofString "to_dict") }

/-- Puts a value where a name says, whatever its kind. Other names have no effect. -/
def assign (s : Settings) (name : Text) (value : Json.Value) : Except SettingsError Settings :=
  if name = Text.ofString "add_generation_comment" then .ok { s with addGenerationComment := value }
  else if name = Text.ofString "use_future_annotations" then
    .ok { s with useFutureAnnotations := value }
  else if name = Text.ofString "capitalize_field_names" then
    .ok { s with capitalizeFieldNames := value }
  else if name = Text.ofString "formatter" then .ok { s with formatter := .replaced value }
  else if name = Text.ofString "output" then .ok { s with output := .replaced value }
  else
    match Reserved.ofName? name with
    | none => .ok s
    | some .exporter => .ok { s with exportValue := some value }
    | some .ownClass => .error (.classRefused value.kindName)
    | some .weakReference => .error .weakReferenceRefused
    | some .parts =>
      match value with
      | .obj members => .ok (ofParts members)
      | _ => .error (.partsRefused value.kindName)

/-- Reads one member. An object for a group sets its options; a group that is absent is set by
nothing else. -/
def readMember (s : Settings) (name : Text) (value : Json.Value) : Except SettingsError Settings :=
  match value with
  | .obj members =>
    if name = Text.ofString "formatter" then do
      return { s with formatter := .options (← FormatterSettings.ofMembers members) }
    else if name = Text.ofString "output" then do
      return { s with output := .options (← OutputSettings.ofMembers members) }
    else s.assign name value
  | _ =>
    if name = Text.ofString "formatter" ∧ s.formatter = .absent then .ok s
    else if name = Text.ofString "output" ∧ s.output = .absent then .ok s
    else s.assign name value

/-- Settings from the members of an object, read in order over the defaults. -/
def ofMembers (members : Json.Members) : Except SettingsError Settings :=
  members.foldlM (fun s (name, value) => s.readMember name value) {}

/-- Settings from a value, which has to be an object. -/
def ofValue (value : Json.Value) : Except SettingsError Settings :=
  match value with
  | .obj members => ofMembers members
  | _ => .error (.missingPart value.kindName (.ofString "items"))

/-! ## Writing -/

def toValue (s : Settings) : Except SettingsError Json.Value :=
  match s.exportValue with
  | some value => .error (.exportReplaced value.kindName)
  | none => do
    let formatter ← s.formatterFor "enabled"
    let output ← s.outputFor "mode"
    return .obj [(.ofString "add_generation_comment", s.addGenerationComment),
      (.ofString "use_future_annotations", s.useFutureAnnotations),
      (.ofString "capitalize_field_names", s.capitalizeFieldNames),
      (.ofString "formatter", .obj formatter.toMembers),
      (.ofString "output", .obj (← output.toMembers))]

/-! ## Changing live settings -/

/-- The value of an option that belongs to no group. -/
def single? (s : Settings) (name : Text) : Option Json.Value :=
  if name = Text.ofString "add_generation_comment" then some s.addGenerationComment
  else if name = Text.ofString "use_future_annotations" then some s.useFutureAnnotations
  else if name = Text.ofString "capitalize_field_names" then some s.capitalizeFieldNames
  else none

/-- Sets the part at a path of names, unchecked. A plain value has no parts. -/
def setAt (s : Settings) (path : List Text) (value : Json.Value) : Except SettingsError Settings :=
  match path with
  | [] => .ok s
  | [name] => s.assign name value
  | group :: name :: deeper =>
    if group = Text.ofString "formatter" then do
      let options ← s.formatter.require group name
      return { s with formatter := .options (← options.setAt name deeper value) }
    else if group = Text.ofString "output" then do
      let options ← s.output.require group name
      return { s with output := .options (← options.setAt name deeper value) }
    else
      match s.single? group with
      | some v => .error (.missingPart v.kindName name)
      | none => .error (.missingPart (.ofString "CodeGeneratorConfig") group)

end RecordGen.Settings
