import RecordGen.Settings.Basic

/-!
# Formatter options

Formatter options from an object or from arguments, as an object again, and changed in place.
-/

namespace RecordGen

namespace FormatterSettings

/-- The names that settings accept for a formatter. -/
def names : List Text := [.ofString "black", .ofString "ruff"]

/-- Sets one option by name; `none` if there is no such option. -/
def set? (s : FormatterSettings) (name : Text) (value : Json.Value) : Option FormatterSettings :=
  if name = Text.ofString "enabled" then some { s with enabled := value }
  else if name = Text.ofString "name" then some { s with name := value }
  else if name = Text.ofString "line_length" then some { s with lineLength := value }
  else if name = Text.ofString "target_version" then some { s with targetVersion := value }
  else if name = Text.ofString "string_normalization" then
    some { s with stringNormalization := value }
  else if name = Text.ofString "magic_trailing_comma" then
    some { s with magicTrailingComma := value }
  else none

def get? (s : FormatterSettings) (name : Text) : Option Json.Value :=
  if name = Text.ofString "enabled" then some s.enabled
  else if name = Text.ofString "name" then some s.name
  else if name = Text.ofString "line_length" then some s.lineLength
  else if name = Text.ofString "target_version" then some s.targetVersion
  else if name = Text.ofString "string_normalization" then some s.stringNormalization
  else if name = Text.ofString "magic_trailing_comma" then some s.magicTrailingComma
  else none

/-- Sets options in order; the first that does not exist is refused. -/
def setAll (s : FormatterSettings) : Json.Members → Except SettingsError FormatterSettings
  | [] => .ok s
  | (name, value) :: rest =>
    if name = Text.ofString "self" then .error (.reservedOption name)
    else
      match s.set? name value with
      | some s => setAll s rest
      | none => .error (.unknownOption name)

/-- The name is one that settings accept. -/
def checkName (s : FormatterSettings) : Except SettingsError FormatterSettings :=
  if names.any fun name => s.name = .str name then .ok s else .error (.unknownFormatter s.name)

/-- Formatter options from an object. Unknown options are refused before an unknown name. -/
def ofMembers (members : Json.Members) : Except SettingsError FormatterSettings := do
  (← setAll {} members).checkName

/-- Options for a call of a function that takes the line length and the target version only. -/
def ofArguments (function : Text) (s : FormatterSettings) :
    Json.Members → Except SettingsError FormatterSettings
  | [] => .ok s
  | (name, value) :: rest =>
    if name = Text.ofString "line_length" then
      ofArguments function { s with lineLength := value } rest
    else if name = Text.ofString "target_version" then
      ofArguments function { s with targetVersion := value } rest
    else if name = Text.ofString "code" then .error (.repeatedArgument function name)
    else .error (.unknownArgument function name)

/-- Sets the part at a name and the names below it, unchecked. Names that are no option have no
effect. -/
def setAt (s : FormatterSettings) (name : Text) (below : List Text) (value : Json.Value) :
    Except SettingsError FormatterSettings :=
  match below with
  | [] =>
    match Settings.Reserved.ofName? name with
    | some .ownClass => .error (.classRefused value.kindName)
    | _ => .ok ((s.set? name value).getD s)
  | next :: _ =>
    match s.get? name with
    | some v => .error (.missingPart v.kindName next)
    | none => .error (.missingPart (.ofString "FormatterConfig") name)

/-- The options as an object. -/
def toMembers (s : FormatterSettings) : Json.Members :=
  [(.ofString "enabled", s.enabled), (.ofString "name", s.name),
    (.ofString "line_length", s.lineLength), (.ofString "target_version", s.targetVersion),
    (.ofString "string_normalization", s.stringNormalization),
    (.ofString "magic_trailing_comma", s.magicTrailingComma)]

end FormatterSettings

end RecordGen
