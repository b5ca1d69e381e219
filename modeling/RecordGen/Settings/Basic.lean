import RecordGen.Settings.Error

/-!
# Settings

What a user may choose about generated code, its formatting and its output file. Values are kept as
they are given, of whatever kind, and only tested for truth where they are used.
-/

namespace RecordGen

/-! ## Groups -/

structure FormatterSettings where
  enabled : Json.Value := .bool true
  name : Json.Value := .str (.ofString "black")
  lineLength : Json.Value := .int 100
  targetVersion : Json.Value := .str (.ofString "py312")
  stringNormalization : Json.Value := .bool true
  magicTrailingComma : Json.Value := .bool true
deriving DecidableEq, Repr

/-- What happens to an output file that exists. A value that is no text is kept and means
neither. -/
inductive OutputMode where
  | errorIfExists
  | force
  | other (value : Json.Value)
deriving DecidableEq, Repr

structure OutputSettings where
  mode : OutputMode := .errorIfExists
  validateBeforeWrite : Json.Value := .bool true
  atomicWrite : Json.Value := .bool true
deriving DecidableEq, Repr

/-- A group of options, or the value that replaced it, or nothing. -/
inductive Group (α : Type) where
  | options (a : α)
  | replaced (value : Json.Value)
  | absent
deriving DecidableEq, Repr

/-- All settings. -/
structure Settings where
  addGenerationComment : Json.Value := .bool true
  useFutureAnnotations : Json.Value := .bool true
  capitalizeFieldNames : Json.Value := .bool false
  formatter : Group FormatterSettings := .options {}
  output : Group OutputSettings := .options {}
  /-- The value that replaced the export, if one did. -/
  exportValue : Option Json.Value := none
deriving DecidableEq, Repr

/-! ## Parts of groups -/

namespace Group

variable {α : Type}

/-- The options of a group, of which the part `name` is wanted. -/
def require (group : Group α) (groupName name : Text) : Except SettingsError α :=
  match group with
  | options a => .ok a
  | replaced value => .error (.missingPart value.kindName name)
  | absent => .error (.missingPart (.ofString "CodeGeneratorConfig") groupName)

end Group

namespace Settings

/-- The formatter options, of which the part `name` is wanted. -/
def formatterFor (s : Settings) (name : String) : Except SettingsError FormatterSettings :=
  s.formatter.require (.ofString "formatter") (.ofString name)

/-- The output options, of which the part `name` is wanted. -/
def outputFor (s : Settings) (name : String) : Except SettingsError OutputSettings :=
  s.output.require (.ofString "output") (.ofString name)

/-! ## Reserved names -/

/-- Names of the settings that are no option: the export, and three that only take values of
special kinds. -/
inductive Reserved where
  | exporter
  | ownClass
  | parts
  | weakReference
deriving DecidableEq, Repr

def Reserved.ofName? (name : Text) : Option Reserved :=
  if name = Text.ofString "to_dict" then some .exporter
  else if name = Text.ofString "__class__" then some .ownClass
  else if name = Text.ofString "__dict__" then some .parts
  else if name = Text.ofString "__weakref__" then some .weakReference
  else none

end Settings
end RecordGen
