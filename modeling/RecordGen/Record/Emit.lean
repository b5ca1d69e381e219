import RecordGen.Formatter.Choice
import RecordGen.Record.Declaration
import RecordGen.Schema.Decode

/-!
# Generated modules

The text of a generated module: a preamble, the declaration of a schema's record class, and the
formatter that goes over both.
-/

namespace RecordGen

/-- The name of the program, as comments and commands give it. -/
def programName : Text := .ofString "json_schema_to_struct"

/-- The line that switches the evaluation of annotations off. -/
def lateAnnotationLine : Text := .ofString "from __future__ import annotations"

namespace Settings

/-- The settings that a declaration depends on. -/
def recordOptions (s : Settings) : RecordOptions :=
  ⟨s.capitalizeFieldNames.isTruthy, s.useFutureAnnotations.isTruthy⟩

/-- The comment that says how a module was generated. -/
def generationComment (s : Settings) (commandLine : Text) : Option Text :=
  if s.addGenerationComment.isTruthy then
    some (Text.ofString "Generated by " ++ programName ++ Text.ofString " v0.1.0 : " ++ commandLine)
  else none

/-- The preamble of a module: the comment, the line that switches evaluation off, and a blank line
between them if there are both. -/
def preamble (s : Settings) (commandLine : Text) : Text :=
  let comment :=
    match s.generationComment commandLine with
    | some c => Text.line (Text.ofString "# " ++ c)
    | none => []
  let late := if s.useFutureAnnotations.isTruthy then Text.line lateAnnotationLine else []
  comment ++ (if comment.isEmpty || late.isEmpty then [] else [CodePoint.lineFeed]) ++ late

/-- The text of a schema's record class with its imports, not formatted. -/
def recordText (s : Settings) (schema : Schema) : Attempt Text :=
  (Declaration.ofSchema s.recordOptions schema).map (Declaration.text s.recordOptions)

/-- The preamble and the record class of a schema, not formatted. -/
def moduleText (s : Settings) (commandLine : Text) (schema : Schema) : Attempt Text := do
  let preamble := s.preamble commandLine
  let body ← s.recordText schema
  return if preamble.isEmpty then body else preamble ++ CodePoint.lineFeed :: body

/-- The generated module of a schema. A schema without an identifier has only the preamble, which is
not formatted. -/
def emit (s : Settings) (tools : Formatter.Toolbox) (commandLine : Text) (schema : Schema) :
    Attempt Text :=
  if schema.id.isEmpty then .ok (s.preamble commandLine)
  else do
    let code ← s.moduleText commandLine schema
    let formatter ← Attempt.ofSettings (s.formatterFor "enabled")
    if formatter.enabled.isTruthy then
      Formatter.run tools (← Formatter.named formatter.name) code formatter
    else return code

/-- The generated module of a raw document. -/
def generate (s : Settings) (tools : Formatter.Toolbox) (commandLine : Text)
    (document : Json.Document) : Attempt Text := do
  s.emit tools commandLine (← (Schema.ofDocument document).mapError Failure.ofDecoding)

end Settings

/-! ## Command lines -/

namespace CommandLine

/-- The last component of a path: nothing for the root, and what no directory precedes. Empty
components and single points do not count. -/
def lastComponent (path : Text) : Text :=
  let components := (path.pieces (CodePoint.ofChar '/')).filter fun c =>
    c ≠ [] ∧ c ≠ Text.ofString "."
  components.getLast?.getD []

/-- A parameter of the command as a comment shows it. -/
inductive Parameter where
  /-- A path, by its last component, behind the option that sets it, if one does. -/
  | path (option : Option Text)
  | choice (option : Text)
  | flag (option : Text)
deriving DecidableEq, Repr

/-- The parameters in order of declaration, arguments before options. -/
def parameters : List (Text × Parameter) :=
  [(.ofString "path", .path none), (.ofString "output", .path none),
    (.ofString "config", .path (some (.ofString "--config"))),
    (.ofString "formatter", .choice (.ofString "--formatter")),
    (.ofString "capitalize_fields", .flag (.ofString "--capitalize-fields")),
    (.ofString "force", .flag (.ofString "--force"))]

/-- The words of a parameter with a value that counts as true. -/
def words (parameter : Parameter) (value : Json.Value) : List Text :=
  match parameter with
  | .path none => [lastComponent value.plain]
  | .path (some option) => [option, lastComponent value.plain]
  | .choice option => [option, value.plain]
  | .flag option => [option]

/-- The command line that stands for some parameter values: the program, its arguments by their
file names, and the options that differ from their defaults. -/
def shown (values : Json.Members) : Text :=
  let given := parameters.flatMap fun (name, parameter) =>
    match values.get? name with
    | some value => if value.isTruthy then words parameter value else []
    | none => []
  Text.join [CodePoint.space] (programName :: given)

end CommandLine
end RecordGen
