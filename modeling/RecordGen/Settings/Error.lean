import RecordGen.Json.Value
import RecordGen.Text.Encoding

/-!
# Errors of settings

How settings can be refused when they are read, and how they can turn out unusable later, those of a
formatter's command included.
-/

namespace RecordGen

/-- How settings can be refused or turn out unusable. -/
inductive SettingsError where
  /-- A value of some kind, or a settings group, has no part of this name. -/
  | missingPart (kind name : Text)
  /-- A formatter option does not exist. -/
  | unknownOption (name : Text)
  /-- A formatter option takes the name of the group itself. -/
  | reservedOption (name : Text)
  | unknownFormatter (value : Json.Value)
  | unknownMode (name : Text)
  /-- The export has been replaced by a value of this kind. -/
  | exportReplaced (kind : Text)
  | classRefused (kind : Text)
  | partsRefused (kind : Text)
  | weakReferenceRefused
  /-- A formatter name of a kind that cannot be looked up. -/
  | unhashable (kind : Text)
  /-- A layout option of the wrong kind. -/
  | wrongKind (expected actual : Text)
  /-- A number has more digits than are written. -/
  | tooManyDigits
  /-- A formatter command argument that is no text. -/
  | argumentKind (kind : Text)
  /-- A formatter command argument with a null character. -/
  | argumentNull
  /-- The arguments of a formatter command are longer than the system allows. -/
  | argumentsTooLong (command : Text)
  /-- What a formatter command prints is no encoded text. -/
  | undecodableOutput (printed : Bytes) (error : EncodingError)
  /-- A function was given an option that it does not take. -/
  | unknownArgument (function name : Text)
  /-- A function was given an argument twice. -/
  | repeatedArgument (function name : Text)
deriving DecidableEq, Repr

def SettingsError.message : SettingsError → Text
  | missingPart kind name =>
    .ofString "'" ++ kind ++ .ofString "' object has no attribute '" ++ name ++ .ofString "'"
  | unknownOption name =>
    .ofString "FormatterConfig.__init__() got an unexpected keyword argument '" ++ name ++
      .ofString "'"
  | reservedOption name =>
    .ofString "FormatterConfig.__init__() got multiple values for argument '" ++ name ++
      .ofString "'"
  | unknownFormatter value =>
    .ofString "Unknown formatter " ++ value.shown ++ .ofString ", expected one of ['black', 'ruff']"
  | unknownMode name => name.quoted ++ .ofString " is not a valid OutputMode"
  | exportReplaced kind => .ofString "'" ++ kind ++ .ofString "' object is not callable"
  | classRefused kind =>
    .ofString "__class__ must be set to a class, not '" ++ kind ++ .ofString "' object"
  | partsRefused kind =>
    .ofString "__dict__ must be set to a dictionary, not a '" ++ kind ++ .ofString "'"
  | weakReferenceRefused =>
    .ofString "attribute '__weakref__' of 'CodeGeneratorConfig' objects is not writable"
  | unhashable kind => .ofString "unhashable type: '" ++ kind ++ .ofString "'"
  | tooManyDigits =>
    .ofString "Exceeds the limit (4300 digits) for integer string conversion; " ++
      .ofString "use sys.set_int_max_str_digits() to increase the limit"
  | wrongKind expected actual => expected ++ .ofString " object expected; got " ++ actual
  | argumentKind kind =>
    .ofString "expected str, bytes or os.PathLike object, not " ++ kind
  | argumentNull => .ofString "embedded null byte"
  | argumentsTooLong command =>
    .ofString "[Errno 7] Argument list too long: " ++ command.quoted
  | undecodableOutput printed error => error.message printed
  | unknownArgument function name =>
    function ++ .ofString "() got an unexpected keyword argument '" ++ name ++ .ofString "'"
  | repeatedArgument function name =>
    function ++ .ofString "() got multiple values for argument '" ++ name ++ .ofString "'"

end RecordGen
