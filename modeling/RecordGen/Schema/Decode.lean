import RecordGen.Schema.Error

/-!
# Decoding schemas

From a document value to a schema. Keywords are checked in a fixed order, and properties last, each
completely before the next, so the error reported is the first one in that order.
-/

namespace RecordGen.Schema

abbrev Decoding := Except DecodeFailure

def refuse {α : Type} (error : DecodeError) : Decoding α := .error (.error error)

/-! ## Keywords -/

/-- The type that a word names. -/
def decodeTypeToken (place : Location) (token : Text) : Decoding TypeSet :=
  match PrimitiveType.ofToken? token with
  | some p => .ok (.single p)
  | none => refuse (.unsupportedType token (place.atKeyword .type))

/-- The types of an array's items. `whole` is the value of the keyword. -/
def decodeTypeItems (place : Location) (whole : Json.Value) : List Json.Value → Decoding TypeSet
  | [] => .ok .empty
  | .str token :: rest => do
    let first ← decodeTypeToken place token
    let others ← decodeTypeItems place whole rest
    return first.union others
  | _ :: _ => refuse (.invalidType whole (place.atKeyword .type))

/-- The value of `type`: a word, or a list of words that is not empty. -/
def decodeType (place : Location) (value : Json.Value) : Decoding TypeSet :=
  match value with
  | .str token => decodeTypeToken place token
  | .arr (item :: items) => decodeTypeItems place value (item :: items)
  | _ => refuse (.invalidType value (place.atKeyword .type))

def decodeFormat (place : Location) (value : Json.Value) : Decoding StringFormat :=
  match value with
  | .str token =>
    match StringFormat.ofToken? token with
    | some format => .ok format
    | none => refuse (.unsupportedFormat token (place.atKeyword .format))
  | _ => refuse (.invalidKeyword .format value .string place)

def decodeText (keyword : Keyword) (place : Location) (value : Json.Value) : Decoding Text :=
  match value with
  | .str t => .ok t
  | _ => refuse (.invalidKeyword keyword value .string place)

/-- The value of a keyword that takes a number. Integers are rounded to double precision. -/
def decodeNumber (keyword : Keyword) (place : Location) (value : Json.Value) :
    Decoding Binary64 :=
  match value with
  | .float x => .ok x
  | .int i =>
    match Binary64.ofInt? i with
    | some x => .ok x
    | none => .error .outOfRange
  | _ => refuse (.invalidKeyword keyword value .number place)

/-- A number without a fraction as an integer, every other value as it is. -/
def integral (value : Json.Value) : Json.Value :=
  match value with
  | .float x =>
    match x.toInt? with
    | some i => .int i
    | none => value
  | _ => value

/-- The value of a keyword that takes a length. A number without a fraction will do. -/
def decodeLength (keyword : Keyword) (place : Location) (value : Json.Value) : Decoding Nat :=
  match integral value with
  | .int (.ofNat n) => .ok n
  | value => refuse (.invalidKeyword keyword value .length place)

/-- The value of a keyword, if the node has it. -/
def optional {α : Type} (decode : Keyword → Location → Json.Value → Decoding α)
    (members : Json.Members) (place : Location) (keyword : Keyword) : Decoding (Option α) :=
  match members.get? keyword.name with
  | none => .ok none
  | some value => (decode keyword place value).map some

/-- All keywords of a node but `properties`. -/
def decodeKeywords (place : Location) (members : Json.Members) : Decoding Schema := do
  let id ← optional decodeText members place .id
  let ref ← optional decodeText members place .ref
  let types ← optional (fun _ => decodeType) members place .type
  let format ← optional (fun _ => decodeFormat) members place .format
  let pattern ← optional decodeText members place .pattern
  let multipleOf ← optional decodeNumber members place .multipleOf
  let maximum ← optional decodeNumber members place .maximum
  let exclusiveMaximum ← optional decodeNumber members place .exclusiveMaximum
  let minimum ← optional decodeNumber members place .minimum
  let exclusiveMinimum ← optional decodeNumber members place .exclusiveMinimum
  let minLength ← optional decodeLength members place .minLength
  let maxLength ← optional decodeLength members place .maxLength
  return {
    id := id.getD []
    ref := ref.getD []
    types := types.getD .empty
    format
    constraints := { multipleOf, maximum, exclusiveMaximum, minimum, exclusiveMinimum, minLength,
                     maxLength, pattern } }

/-! ## Nodes -/

mutual

def decodeNode (place : Location) : Json.Value → Decoding Schema
  | .obj members => do
    let schema ← decodeKeywords place members
    let properties ← decodeProperties place members
    return { schema with properties }
  | value => refuse (.invalidKeyword .schema value .object place)

/-- The subschemas under `properties`, if a node has it. -/
def decodeProperties (place : Location) : List (Text × Json.Value) →
    Decoding (List (Text × Schema))
  | [] => .ok []
  | (name, value) :: rest =>
    if name = Keyword.properties.name then decodeChildMap place value
    else decodeProperties place rest

/-- The value of `properties`. -/
def decodeChildMap (place : Location) : Json.Value → Decoding (List (Text × Schema))
  | .obj children => decodeChildren place children
  | value => refuse (.invalidKeyword .properties value .object place)

/-- The subschemas in document order. -/
def decodeChildren (place : Location) : List (Text × Json.Value) →
    Decoding (List (Text × Schema))
  | [] => .ok []
  | (name, value) :: rest => do
    let schema ← decodeNode (place.child name) value
    let others ← decodeChildren place rest
    return (name, schema) :: others

end

/-- The schema that a decoded document describes. -/
def ofValue (value : Json.Value) : Decoding Schema := decodeNode {} value

/-- The schema that a raw document describes. -/
def ofDocument (document : Json.Document) : Decoding Schema :=
  match document.value with
  | .ok value => ofValue value
  | .error (.encoding error) => refuse (.undecodable error)
  | .error (.reading (.syntaxError error)) => refuse (.malformed error)
  | .error (.reading (.tooManyDigits count)) => .error (.tooManyDigits count)
  | .error (.reading .tooDeep) => .error .tooDeep

end RecordGen.Schema
