import RecordGen.Json.Document
import RecordGen.Schema.Basic

/-!
# Decoding errors

Why a document is no schema, and where: the causes and their wording.
-/

namespace RecordGen

/-- The keywords of a schema that are read, and `schema` for a node as a whole. -/
inductive Keyword where
  | schema
  | id
  | ref
  | type
  | format
  | pattern
  | multipleOf
  | maximum
  | exclusiveMaximum
  | minimum
  | exclusiveMinimum
  | minLength
  | maxLength
  | properties
deriving DecidableEq, Repr

def Keyword.name : Keyword → Text
  | schema => .ofString "schema"
  | id => .ofString "$id"
  | ref => .ofString "$ref"
  | type => .ofString "type"
  | format => .ofString "format"
  | pattern => .ofString "pattern"
  | multipleOf => .ofString "multipleOf"
  | maximum => .ofString "maximum"
  | exclusiveMaximum => .ofString "exclusiveMaximum"
  | minimum => .ofString "minimum"
  | exclusiveMinimum => .ofString "exclusiveMinimum"
  | minLength => .ofString "minLength"
  | maxLength => .ofString "maxLength"
  | properties => .ofString "properties"

/-- The shape that a keyword's value should have. -/
inductive Shape where
  | object
  | string
  | number
  | length
deriving DecidableEq, Repr

def Shape.wording : Shape → Text
  | object => .ofString "an object"
  | string => .ofString "a string"
  | number => .ofString "a number"
  | length => .ofString "a non-negative integer"

/-- Where a node or one of its keywords is: the property names on the way from the root, and the
keyword if the fault is in its words. -/
structure Location where
  root : Text := .ofString "#"
  steps : List Text := []
  keyword : Option Keyword := none
deriving DecidableEq, Repr

namespace Location

/-- The place of a property's schema. -/
def child (place : Location) (name : Text) : Location :=
  { place with steps := place.steps ++ [name] }

def atKeyword (place : Location) (keyword : Keyword) : Location :=
  { place with keyword := some keyword }

/-- The written form of a place. Names are not escaped. -/
def text (place : Location) : Text :=
  place.root ++ place.steps.flatMap (fun name => Text.ofString "/properties/" ++ name) ++
    (match place.keyword with
    | none => []
    | some keyword => .ofString "/" ++ keyword.name)

end Location

/-- Why a document is no schema. -/
inductive DecodeError where
  /-- The text is no document at all. -/
  | malformed (error : Json.SyntaxError)
  /-- The octets are no text. -/
  | undecodable (error : EncodingError)
  | unsupportedType (token : Text) (place : Location)
  | invalidType (value : Json.Value) (place : Location)
  | unsupportedFormat (token : Text) (place : Location)
  | invalidKeyword (keyword : Keyword) (value : Json.Value) (expected : Shape) (place : Location)
deriving DecidableEq, Repr

namespace DecodeError

/-- Where the error is. Errors of the document as a whole are at the root. -/
def place : DecodeError → Location
  | malformed _ => {}
  | undecodable _ => {}
  | unsupportedType _ place => place
  | invalidType _ place => place
  | unsupportedFormat _ place => place
  | invalidKeyword _ _ _ place => place

/-- What is wrong, without the place. -/
def summary : DecodeError → Text
  | malformed ⟨fault, offset⟩ =>
    .ofString "invalid JSON at offset " ++ .ofNat offset ++ .ofString ": " ++ fault.message
  | undecodable ⟨fault, offset, _⟩ =>
    .ofString "invalid JSON at offset " ++ .ofNat offset ++ .ofString ": " ++ fault.reason
  | unsupportedType token _ => .ofString "unsupported type: " ++ token.quoted
  | invalidType value _ =>
    .ofString "invalid type value: " ++ value.shown ++ .ofString ", expected string or array"
  | unsupportedFormat token _ => .ofString "unsupported format: " ++ token.quoted
  | invalidKeyword keyword value expected _ =>
    .ofString "invalid value for " ++ keyword.name.quoted ++ .ofString ": " ++ value.shown ++
      .ofString ", expected " ++ expected.wording

def message (error : DecodeError) : Text :=
  error.summary ++ .ofString " (at " ++ error.place.text ++ .ofString ")"

end DecodeError

/-- Every way in which decoding ends without a schema. Only the first is an answer about the
document's content; the others are limits of the numbers and of the nesting that are handled. -/
inductive DecodeFailure where
  | error (e : DecodeError)
  /-- An integer literal has too many digits. -/
  | tooManyDigits (count : Nat)
  /-- An integer is too large for a double-precision number. -/
  | outOfRange
  | tooDeep
deriving DecidableEq, Repr

end RecordGen
