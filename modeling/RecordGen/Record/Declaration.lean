import RecordGen.Failure
import RecordGen.Record.FieldType

/-!
# Record declarations

A record class as data: its name and its fields in order, from which the import block and the class
text follow. `ofSchema` builds it from a schema, `text` writes it.
-/

namespace RecordGen

/-- A field of a record class and the property it comes from. -/
structure RecordField where
  property : Text
  name : Text
  type : FieldType
deriving DecidableEq, Repr

/-- A record class. -/
structure Declaration where
  className : Text
  fields : List RecordField
deriving DecidableEq, Repr

/-- What the text of a declaration depends on beside the schema. -/
structure RecordOptions where
  /-- Field names are property names in Pascal case. -/
  capitalize : Bool
  /-- Annotations are not evaluated, so a reference needs no quotes. -/
  lateAnnotations : Bool
deriving DecidableEq, Repr

namespace Declaration

/-! ## From schemas -/

/-- The properties in ascending order of their names. -/
def sortedProperties (schema : Schema) : List (Text × Schema) :=
  schema.properties.mergeSort fun p q => p.1.le q.1

/-- The annotation of a property; an error names the property. -/
def resolveProperty (name : Text) (schema : Schema) : Attempt FieldType :=
  match resolve schema.types schema.format schema.ref with
  | .ok type => .ok type
  | .error (.naming error) => Attempt.refuse (.naming error (some name))
  | .error (.unsupported types format) =>
    Attempt.refuse (.unsupportedType types format (some name))

def fieldName (options : RecordOptions) (property : Text) : Text :=
  if options.capitalize then Pascal.ofText property else property

/-- The fields of properties that come after some fields. A property whose field name is taken is
refused. -/
def fieldsAfter (options : RecordOptions) (taken : List RecordField) :
    List (Text × Schema) → Attempt (List RecordField)
  | [] => .ok []
  | (property, schema) :: rest => do
    let type ← resolveProperty property schema
    let name := fieldName options property
    match taken.find? fun field => field.name = name with
    | some other => Attempt.refuse (.duplicateField name other.property property)
    | none =>
      let field : RecordField := ⟨property, name, type⟩
      return field :: (← fieldsAfter options (taken ++ [field]) rest)

/-- The record class of a schema: named by its identifier, with a field for each property in
ascending order of the property names. -/
def ofSchema (options : RecordOptions) (schema : Schema) : Attempt Declaration :=
  if schema.properties.isEmpty then Attempt.refuse (.noProperties schema.id)
  else
    match TypeName.ofUri schema.id with
    | .error error => Attempt.refuse (.naming error none)
    | .ok className => do
      return ⟨className, ← fieldsAfter options [] (sortedProperties schema)⟩

/-! ## Text -/

/-- Inserts a text into an ascending list unless it is there. -/
def insertOnce (t : Text) : List Text → List Text
  | [] => [t]
  | other :: rest =>
    if t = other then other :: rest
    else if t.le other then t :: other :: rest
    else other :: insertOnce t rest

/-- The modules that the annotations need, ascending and each once. -/
def modules (d : Declaration) : List Text :=
  (d.fields.filterMap fun field => field.type.module?).foldr insertOnce []

/-- The annotation of a field as written. A reference is quoted where annotations are evaluated. -/
def annotationText (options : RecordOptions) (type : FieldType) : Text :=
  if type.isReference && !options.lateAnnotations then
    Text.ofString "\"" ++ type.text ++ Text.ofString "\""
  else type.text

/-- The import block: one line for each module, and the line that brings in the class decorator. -/
def importBlock (d : Declaration) : Text :=
  d.modules.flatMap (fun m => Text.line (Text.ofString "import " ++ m)) ++
    Text.line (.ofString "from dataclasses import dataclass")

def fieldLine (options : RecordOptions) (field : RecordField) : Text :=
  Text.line (Text.ofString "    " ++ field.name ++ Text.ofString ": " ++
    annotationText options field.type)

def text (options : RecordOptions) (d : Declaration) : Text :=
  d.importBlock ++ Text.line [] ++ Text.line [] ++ Text.line (.ofString "@dataclass") ++
    Text.line (Text.ofString "class " ++ d.className ++ Text.ofString ":") ++
    d.fields.flatMap (fieldLine options)

end Declaration
end RecordGen
