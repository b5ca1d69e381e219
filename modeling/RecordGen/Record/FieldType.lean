import RecordGen.Name.TypeName
import RecordGen.Schema.Vocabulary

/-!
# Field types

The type annotation of a field: a builtin type, a type of a standard module, or a reference to
another record class. `resolve` is the rule that finds it.
-/

namespace RecordGen

/-- The builtin types that annotations use. -/
inductive Builtin where
  | text
  | integer
  | float
  | boolean
  | list
  | object
deriving DecidableEq, Repr

def Builtin.name : Builtin → Text
  | text => .ofString "str"
  | integer => .ofString "int"
  | float => .ofString "float"
  | boolean => .ofString "bool"
  | list => .ofString "list"
  | object => .ofString "object"

/-- The types of standard modules that annotations use. -/
inductive StandardType where
  | dateTime
  | date
  | time
  | duration
  | addressFour
  | addressSix
  | pattern
  | uuid
deriving DecidableEq, Repr

namespace StandardType

def module : StandardType → Text
  | dateTime => .ofString "datetime"
  | date => .ofString "datetime"
  | time => .ofString "datetime"
  | duration => .ofString "datetime"
  | addressFour => .ofString "ipaddress"
  | addressSix => .ofString "ipaddress"
  | pattern => .ofString "re"
  | uuid => .ofString "uuid"

/-- The name inside the module. -/
def name : StandardType → Text
  | dateTime => .ofString "datetime"
  | date => .ofString "date"
  | time => .ofString "time"
  | duration => .ofString "timedelta"
  | addressFour => .ofString "IPv4Address"
  | addressSix => .ofString "IPv6Address"
  | pattern => .ofString "Pattern"
  | uuid => .ofString "UUID"

end StandardType

inductive FieldType where
  | builtin (type : Builtin)
  | standard (type : StandardType)
  /-- Another record class, which may be missing at run time and may be defined later. -/
  | reference (className : Text)
deriving DecidableEq, Repr

namespace FieldType

/-- The annotation as it is written, without quotes. -/
def text : FieldType → Text
  | builtin type => type.name
  | standard type => type.module ++ Text.ofString "." ++ type.name
  | reference className => className ++ Text.ofString " | None"

/-- The module that the annotation needs. -/
def module? : FieldType → Option Text
  | standard type => some type.module
  | _ => none

/-- The annotation names a record class. -/
def isReference : FieldType → Bool
  | reference _ => true
  | _ => false

end FieldType

/-! ## Resolution -/

/-- The annotation that a string format refines text to. -/
def StringFormat.fieldType : StringFormat → FieldType
  | .dateTime => .standard .dateTime
  | .date => .standard .date
  | .time => .standard .time
  | .duration => .standard .duration
  | .ipv4 => .standard .addressFour
  | .ipv6 => .standard .addressSix
  | .regex => .standard .pattern
  | .uuid => .standard .uuid
  | _ => .builtin .text

/-- The annotation of a primitive type that is declared alone. Texts and objects have none: a text
takes its annotation from the format, and an object is only reached through a reference. -/
def PrimitiveType.fieldType? : PrimitiveType → Option FieldType
  | .integer => some (.builtin .integer)
  | .number => some (.builtin .float)
  | .boolean => some (.builtin .boolean)
  | .array => some (.builtin .list)
  | .null => some (.builtin .object)
  | .string => none
  | .object => none

/-- The annotation of a set that holds exactly one type. -/
def TypeSet.fieldType? (types : TypeSet) : Option FieldType :=
  PrimitiveType.all.findSome? fun p => if types = .single p then p.fieldType? else none

/-- Why a property has no annotation. -/
inductive ResolveError where
  | naming (error : NameError)
  /-- No rule matches the declared types. -/
  | unsupported (types : TypeSet) (format : Option StringFormat)
deriving DecidableEq, Repr

/-- The annotation of a property with the given types, format and reference. Declared text comes
first, then a single primitive type, then the reference. -/
def resolve (types : TypeSet) (format : Option StringFormat) (ref : Text) :
    Except ResolveError FieldType :=
  if types.contains .string then .ok ((format.map StringFormat.fieldType).getD (.builtin .text))
  else
    match types.fieldType? with
    | some type => .ok type
    | none =>
      if ref.isEmpty then .error (.unsupported types format)
      else
        match TypeName.ofUri ref with
        | .ok className => .ok (.reference className)
        | .error error => .error (.naming error)

end RecordGen
