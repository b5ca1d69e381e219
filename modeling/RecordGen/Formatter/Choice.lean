import RecordGen.Formatter.Tool

/-!
# Choosing a formatter

The formatter of a name, and a run of it with what is installed.
-/

namespace RecordGen.Formatter

/-- What formatting can rely on. -/
structure Toolbox where
  layoutInstalled : Bool
  environment : Environment

/-- Both formatters work. -/
def Toolbox.full : Toolbox := ⟨true, installedEnvironment⟩

def named (value : Json.Value) : Attempt FormatterName :=
  match value with
  | .arr _ => .error (.settings (.unhashable value.kindName))
  | .obj _ => .error (.settings (.unhashable value.kindName))
  | _ =>
    if value = .str FormatterName.black.text then .ok .black
    else if value = .str FormatterName.ruff.text then .ok .ruff
    else .error (.settings (.unknownFormatter value))

def run (tools : Toolbox) (formatter : FormatterName) (code : Text) (s : FormatterSettings) :
    Attempt Text :=
  match formatter with
  | .black => layOut tools.layoutInstalled code s
  | .ruff => (Tool.format tools.environment FormatterName.ruff.text code s {}).1

end RecordGen.Formatter
