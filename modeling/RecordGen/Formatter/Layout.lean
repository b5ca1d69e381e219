import RecordGen.Failure
import RecordGen.Source.Layout

/-!
# The layout formatter

The formatter that lays code out itself. It checks the code, then its options.
-/

namespace RecordGen.Formatter

/-- A fault of the code under a formatter's check. -/
def sourceFailure (formatter : FormatterName) : Source.Fault → Failure
  | .unencodable => .unencodable
  | .nullCharacter => .nullCharacter
  | .invalidSyntax => .generator (.formatting formatter .invalidSyntax)

/-- The minor version that a target names: `PY3` and one of 3 to 15. -/
def targetMinor? (t : Text) : Option Nat :=
  (List.range 16).find? fun minor =>
    3 ≤ minor && Text.ofString "PY3" ++ Text.ofNat minor = t.map CodePoint.asciiUpper

/-- The target version of some settings. A value that counts as false sets none. -/
def target (s : FormatterSettings) : Attempt (Option Nat) :=
  match s.targetVersion with
  | .str name =>
    if name.isEmpty then .ok none
    else
      match targetMinor? name with
      | some minor => .ok (some minor)
      | none => Attempt.refuse (.formatting .black (.unknownTarget name))
  | value =>
    if value.isTruthy then
      .error (.settings (.missingPart value.kindName (.ofString "upper")))
    else .ok none

/-- The kind of a value as the layout formatter names it. -/
def layoutKind : Json.Value → Text
  | .null => .ofString "None"
  | value => value.kindName

/-- An option that has to be an integer. Truth values count as 0 and 1. -/
def integerOption (value : Json.Value) : Attempt Int :=
  match value with
  | .int i => .ok i
  | .bool b => .ok (if b then 1 else 0)
  | value => .error (.settings (.wrongKind (.ofString "int") (layoutKind value)))

/-- An option that has to be a truth value. -/
def flagOption (value : Json.Value) : Attempt Bool :=
  match value with
  | .bool b => .ok b
  | value => .error (.settings (.wrongKind (.ofString "bool") (layoutKind value)))

def layoutOptions (s : FormatterSettings) : Attempt Source.LayoutOptions := do
  let target ← target s
  let lineLength ← integerOption s.lineLength
  let normalizesStrings ← flagOption s.stringNormalization
  let heedsCommas ← flagOption s.magicTrailingComma
  return { lineLength, normalizesStrings, heedsCommas, target }

/-- Lays code out. The installation is looked at first, then the code, then the settings. -/
def layOut (installed : Bool) (code : Text) (s : FormatterSettings) : Attempt Text :=
  if !installed then
    Attempt.refuse (.formatting .black (.notInstalled FormatterName.black.text))
  else
    match Source.check code with
    | .error fault => .error (sourceFailure .black fault)
    | .ok _ => do
      let options ← layoutOptions s
      match Source.layout? options code with
      | some laidOut => return laidOut
      | none => Attempt.refuse (.formatting .black .unreadable)

end RecordGen.Formatter
