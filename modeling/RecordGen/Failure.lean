import RecordGen.Name.TypeName
import RecordGen.Schema.Error
import RecordGen.Settings.Document

/-!
# Failures

How generation can end without a result. `GeneratorError` are the errors that are part of the
generator's own answers, in four families; `Failure` adds what lies outside them: limits, unusable
settings, and what the operating system refuses.
-/

namespace RecordGen

inductive FormatterName where
  | black
  | ruff
deriving DecidableEq, Repr

def FormatterName.text : FormatterName → Text
  | black => .ofString "black"
  | ruff => .ofString "ruff"

/-- Why a formatter rejects code. -/
inductive FormatFault where
  | notInstalled (tool : Text)
  | invalidSyntax
  | unknownTarget (name : Text)
  /-- The target version cannot read the code. -/
  | unreadable
  /-- The formatter command did not succeed. -/
  | commandFailed (reason : Text)
deriving DecidableEq, Repr

def FormatFault.reason : FormatFault → Text
  | notInstalled tool => tool ++ Text.ofString " is not installed"
  | invalidSyntax => .ofString "invalid syntax"
  | unknownTarget name => .ofString "unknown target version " ++ name.quoted
  | unreadable => .ofString "cannot parse"
  | commandFailed reason => reason

/-- Why code is not written to a file. -/
inductive OutputFault where
  | invalidSyntax
  /-- A check of the caller's own refuses it. -/
  | rejected
deriving DecidableEq, Repr

def OutputFault.message : OutputFault → Text
  | invalidSyntax => .ofString "Generated Python code is not valid"
  | rejected => .ofString "rejected by validator"

inductive GeneratorError where
  | decode (error : DecodeError)
  /-- A URI gives no type name; the property whose reference it is, if it is one. -/
  | naming (error : NameError) (property : Option Text)
  | unsupportedType (types : TypeSet) (format : Option StringFormat) (property : Option Text)
  | noProperties (id : Text)
  | duplicateField (field first second : Text)
  | formatting (formatter : FormatterName) (fault : FormatFault)
  | output (fault : OutputFault)
deriving DecidableEq, Repr

namespace GeneratorError

/-- A wording that names the property it is about, if there is one. -/
def aboutProperty (property : Option Text) (wording : Text) : Text :=
  match property with
  | none => wording
  | some name => .ofString "property " ++ name.quoted ++ .ofString ": " ++ wording

def message : GeneratorError → Text
  | decode error => error.message
  | naming error property => aboutProperty property error.message
  | unsupportedType types format property =>
    let declared :=
      match format with
      | none => Text.ofString "None"
      | some f => f.token.quoted
    aboutProperty property
      (.ofString "unsupported schema type " ++ types.text ++ .ofString " with format " ++ declared)
  | noProperties id => .ofString "schema " ++ id.quoted ++ .ofString " has no properties"
  | duplicateField field first second =>
    .ofString "properties " ++ first.quoted ++ .ofString " and " ++ second.quoted ++
      .ofString " both map to field " ++ field.quoted
  | formatting formatter fault =>
    formatter.text ++ .ofString " failed to format generated code: " ++ fault.reason
  | output fault => fault.message

end GeneratorError

/-- What the operating system refuses. -/
inductive SystemFault where
  | exists
  | notFound
  | isDirectory
  | notDirectory
  | notPermitted
deriving DecidableEq, Repr

/-- The number and the wording of a fault. -/
def SystemFault.message : SystemFault → Text
  | .exists => .ofString "[Errno 17] File exists"
  | .notFound => .ofString "[Errno 2] No such file or directory"
  | .isDirectory => .ofString "[Errno 21] Is a directory"
  | .notDirectory => .ofString "[Errno 20] Not a directory"
  | .notPermitted => .ofString "[Errno 13] Permission denied"

/-- Every way to end without a result. -/
inductive Failure where
  | generator (error : GeneratorError)
  | settings (error : SettingsError)
  /-- Settings are no well-formed document. -/
  | settingsSyntax (error : Json.SyntaxError)
  | tooManyDigits (count : Nat)
  | outOfRange
  | tooDeep
  /-- A text with a lone surrogate cannot be encoded. -/
  | unencodable
  | nullCharacter
  /-- The output file exists and may not be replaced. -/
  | outputExists (path : Text)
  /-- The path of the file or directory that the system's refusal is about. -/
  | system (fault : SystemFault) (path : Text)
  | interrupted
deriving DecidableEq, Repr

namespace Failure

def message : Failure → Text
  | generator error => error.message
  | settings error => error.message
  | settingsSyntax ⟨fault, _⟩ => fault.message
  | tooManyDigits count =>
    .ofString "Exceeds the limit (4300 digits) for integer string conversion: value has " ++
      .ofNat count ++
      .ofString " digits; use sys.set_int_max_str_digits() to increase the limit"
  | outOfRange => .ofString "int too large to convert to float"
  | tooDeep => .ofString "the document is nested too deeply"
  | unencodable => .ofString "a lone surrogate cannot be encoded"
  | nullCharacter => .ofString "source code string cannot contain null bytes"
  | outputExists path =>
    .ofString "Output file already exists: " ++ path ++ .ofString ". Use --force to overwrite."
  | system fault path => fault.message ++ .ofString ": " ++ path.quoted
  | interrupted => .ofString "interrupted"

def ofDecoding : DecodeFailure → Failure
  | .error e => generator (.decode e)
  | .tooManyDigits count => tooManyDigits count
  | .outOfRange => outOfRange
  | .tooDeep => tooDeep

/-- A failure to read a value that is no schema. -/
def ofReading : Json.ReadFailure → Failure
  | .syntaxError error => settingsSyntax error
  | .tooManyDigits count => tooManyDigits count
  | .tooDeep => tooDeep

end Failure

/-- A step that may fail. -/
abbrev Attempt := Except Failure

namespace Attempt

def refuse {α : Type} (error : GeneratorError) : Attempt α := .error (.generator error)

def ofSettings {α : Type} (step : Except SettingsError α) : Attempt α := step.mapError .settings

end Attempt
end RecordGen
