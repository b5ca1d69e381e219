import RecordGen.Text

/-!
# Schema vocabulary

The words that a schema may use: the seven primitive types, sets of them, and the string formats.
-/

namespace RecordGen

/-! ## Primitive types -/

inductive PrimitiveType where
  | string
  | number
  | integer
  | object
  | array
  | boolean
  | null
deriving DecidableEq, Repr

namespace PrimitiveType

/-- All types, in the order in which a set of them is shown. -/
def all : List PrimitiveType := [string, number, integer, object, array, boolean, null]

def token : PrimitiveType → Text
  | string => .ofString "string"
  | number => .ofString "number"
  | integer => .ofString "integer"
  | object => .ofString "object"
  | array => .ofString "array"
  | boolean => .ofString "boolean"
  | null => .ofString "null"

/-- The type that a word names. -/
def ofToken? (t : Text) : Option PrimitiveType := all.find? fun p => p.token = t

/-- The place of a type in `all`. -/
def index : PrimitiveType → Nat
  | string => 0
  | number => 1
  | integer => 2
  | object => 3
  | array => 4
  | boolean => 5
  | null => 6

end PrimitiveType

/-- A set of primitive types, one bit for each. -/
structure TypeSet where
  bits : BitVec 7
deriving DecidableEq, Repr

namespace TypeSet

def empty : TypeSet := ⟨0⟩

def single (p : PrimitiveType) : TypeSet := ⟨BitVec.twoPow 7 p.index⟩

/-- Types of either set. -/
def union (s t : TypeSet) : TypeSet := ⟨s.bits ||| t.bits⟩

def contains (s : TypeSet) (p : PrimitiveType) : Bool := s.bits.getLsbD p.index

def ofList (types : List PrimitiveType) : TypeSet :=
  types.foldl (fun s p => s.union (single p)) empty

/-- The members in the order of `PrimitiveType.all`. -/
def members (s : TypeSet) : List PrimitiveType := PrimitiveType.all.filter s.contains

/-- The words of the members with a bar between neighbours. -/
def text (s : TypeSet) : Text :=
  if s.bits = 0 then .ofString "<none>"
  else Text.join (.ofString "|") (s.members.map PrimitiveType.token)

end TypeSet

/-! ## String formats -/

inductive StringFormat where
  | dateTime
  | time
  | date
  | duration
  | email
  | idnEmail
  | hostname
  | idnHostname
  | ipv4
  | ipv6
  | uuid
  | uri
  | uriReference
  | iri
  | iriReference
  | uriTemplate
  | jsonPointer
  | relativeJsonPointer
  | regex
deriving DecidableEq, Repr

namespace StringFormat

def all : List StringFormat :=
  [dateTime, time, date, duration, email, idnEmail, hostname, idnHostname, ipv4, ipv6, uuid, uri,
    uriReference, iri, iriReference, uriTemplate, jsonPointer, relativeJsonPointer, regex]

def token : StringFormat → Text
  | dateTime => .ofString "date-time"
  | time => .ofString "time"
  | date => .ofString "date"
  | duration => .ofString "duration"
  | email => .ofString "email"
  | idnEmail => .ofString "idn-email"
  | hostname => .ofString "hostname"
  | idnHostname => .ofString "idn-hostname"
  | ipv4 => .ofString "ipv4"
  | ipv6 => .ofString "ipv6"
  | uuid => .ofString "uuid"
  | uri => .ofString "uri"
  | uriReference => .ofString "uri-reference"
  | iri => .ofString "iri"
  | iriReference => .ofString "iri-reference"
  | uriTemplate => .ofString "uri-template"
  | jsonPointer => .ofString "json-pointer"
  | relativeJsonPointer => .ofString "relative-json-pointer"
  | regex => .ofString "regex"

/-- The format that a word names. -/
def ofToken? (t : Text) : Option StringFormat := all.find? fun f => f.token = t

/-- The name of a format as a constant: its word in capitals with underscores for hyphens. -/
def constantName (f : StringFormat) : Text :=
  f.token.map fun c => if c = CodePoint.ofChar '-' then CodePoint.ofChar '_' else c.asciiUpper

end StringFormat
end RecordGen
