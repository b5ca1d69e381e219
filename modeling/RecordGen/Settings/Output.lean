import RecordGen.Settings.Basic

/-!
# Output options

Output modes and output options from values, as values again, and changed in place.
-/

namespace RecordGen

namespace OutputMode

def ofValue (value : Json.Value) : Except SettingsError OutputMode :=
  match value with
  | .str name =>
    if name = Text.ofString "error" then .ok .errorIfExists
    else if name = Text.ofString "force" then .ok .force
    else .error (.unknownMode name)
  | _ => .ok (.other value)

/-- The word for a mode. A value that is no mode has none. -/
def toValue : OutputMode → Except SettingsError Json.Value
  | errorIfExists => .ok (.str (.ofString "error"))
  | force => .ok (.str (.ofString "force"))
  | other value => .error (.missingPart value.kindName (.ofString "value"))

end OutputMode

namespace OutputSettings

/-- Output options from an object; unknown ones are ignored. -/
def ofMembers (members : Json.Members) : Except SettingsError OutputSettings := do
  let mode ←
    match members.get? (.ofString "mode") with
    | none => pure .errorIfExists
    | some value => OutputMode.ofValue value
  return {
    mode
    validateBeforeWrite := (members.get? (.ofString "validate_before_write")).getD (.bool true)
    atomicWrite := (members.get? (.ofString "atomic_write")).getD (.bool true) }

/-- Sets the part at a name and the names below it, unchecked. Names that are no option have no
effect. -/
def setAt (s : OutputSettings) (name : Text) (below : List Text) (value : Json.Value) :
    Except SettingsError OutputSettings :=
  match below with
  | [] =>
    if name = Text.ofString "mode" then .ok { s with mode := .other value }
    else if name = Text.ofString "validate_before_write" then
      .ok { s with validateBeforeWrite := value }
    else if name = Text.ofString "atomic_write" then .ok { s with atomicWrite := value }
    else .ok s
  | next :: _ =>
    let missing (v : Json.Value) : Except SettingsError OutputSettings :=
      .error (.missingPart v.kindName next)
    if name = Text.ofString "validate_before_write" then missing s.validateBeforeWrite
    else if name = Text.ofString "atomic_write" then missing s.atomicWrite
    else if name = Text.ofString "mode" then
      match s.mode with
      | .other v => missing v
      | _ => .ok s
    else .error (.missingPart (.ofString "OutputConfig") name)

/-- The options as an object. -/
def toMembers (s : OutputSettings) : Except SettingsError Json.Members := do
  let mode ← s.mode.toValue
  return [(.ofString "mode", mode), (.ofString "validate_before_write", s.validateBeforeWrite),
    (.ofString "atomic_write", s.atomicWrite)]

end OutputSettings

end RecordGen
