import RecordGen.Command.Arguments
import RecordGen.Failure

/-!
# Settings of a run

The settings file of a run, and what the command line overrides in it.
-/

namespace RecordGen.Command

/-- Line and column of an offset in a text, both from one. -/
def lineAndColumn (t : Text) (offset : Nat) : Nat × Nat :=
  let lines := Text.pieces CodePoint.lineFeed (t.take offset)
  (lines.length, (lines.getLast?.getD []).length + 1)

/-- The wording of a syntax error with its place in the text. -/
def syntaxMessage (t : Text) (error : Json.SyntaxError) : Text :=
  let (line, column) := lineAndColumn t error.offset
  error.fault.message ++ Text.ofString ": line " ++ .ofNat line ++ .ofString " column " ++
    .ofNat column ++ .ofString " (char " ++ .ofNat error.offset ++ .ofString ")"

/-- How a run ends before its result is written. -/
inductive Stop where
  /-- A message for the user. -/
  | reported (message : Text)
  /-- A failure that nothing reports. -/
  | escaped (failure : Failure)
deriving DecidableEq, Repr

/-- Reads settings from the octets of a file with a name. All that is wrong with them is reported,
but for settings that are nested too deeply. -/
def readSettings (name : Text) (bytes : Bytes) : Except Stop Settings :=
  let bad (message : Text) : Except Stop Settings :=
    .error (.reported (Text.ofString "Invalid config " ++ name ++ .ofString ": " ++ message))
  match Utf8.decode .refused bytes with
  | .error error => bad (error.message bytes)
  | .ok t =>
    let t := t.unifyLineBreaks
    match Json.readText t with
    | .error (.syntaxError error) => bad (syntaxMessage t error)
    | .error .tooDeep => .error (.escaped .tooDeep)
    | .error (.tooManyDigits count) => bad (Failure.tooManyDigits count).message
    | .ok value =>
      match Settings.ofValue value with
      | .ok settings => .ok settings
      | .error error => bad error.message

/-- Applies what the command line overrides: the formatter, then the field names, then the output
mode. -/
def override (request : Request) (s : Settings) : Except SettingsError Settings := do
  let s ←
    match request.formatter with
    | none => pure s
    | some choice => do
      let f ← s.formatterFor "enabled"
      let f : FormatterSettings :=
        if choice = .none then { f with enabled := .bool false }
        else { f with enabled := .bool true, name := .str choice.text }
      pure { s with formatter := .options f }
  let s := if request.capitalize then { s with capitalizeFieldNames := .bool true } else s
  if request.force then do
    let o ← s.outputFor "mode"
    return { s with output := .options { o with mode := .force } }
  else return s

end RecordGen.Command
