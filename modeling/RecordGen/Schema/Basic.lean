import RecordGen.Number.Binary64
import RecordGen.Schema.Vocabulary

/-!
# Schemas

A decoded schema: the keywords that generation reads, and the constraint keywords, which are kept
for the reader of a schema only.
-/

namespace RecordGen

structure Constraints where
  multipleOf : Option Binary64 := none
  maximum : Option Binary64 := none
  exclusiveMaximum : Option Binary64 := none
  minimum : Option Binary64 := none
  exclusiveMinimum : Option Binary64 := none
  minLength : Option Nat := none
  maxLength : Option Nat := none
  pattern : Option Text := none
deriving DecidableEq, Repr

/-- A schema node. Absent texts are empty, an absent type is the empty set. -/
structure Schema where
  /-- The identifier that names the schema. -/
  id : Text := []
  /-- The identifier of the schema that is referred to. -/
  ref : Text := []
  types : TypeSet := .empty
  format : Option StringFormat := none
  constraints : Constraints := {}
  /-- The named subschemas in document order, each name once. -/
  properties : List (Text × Schema) := []
deriving Repr

namespace Constraints

/-- Both bounds are absent or equal as numbers. -/
def sameBound : Option Binary64 → Option Binary64 → Bool
  | none, none => true
  | some x, some y => x.sameNumber y
  | _, _ => false

/-- The same constraints, bounds compared as numbers. -/
def same (a b : Constraints) : Bool :=
  sameBound a.multipleOf b.multipleOf && sameBound a.maximum b.maximum &&
    sameBound a.exclusiveMaximum b.exclusiveMaximum && sameBound a.minimum b.minimum &&
    sameBound a.exclusiveMinimum b.exclusiveMinimum && a.minLength == b.minLength &&
    a.maxLength == b.maxLength && a.pattern == b.pattern

end Constraints

namespace Schema

mutual

/-- Structural equality: the order of properties does not count, and numbers are compared by
value. -/
def same (a b : Schema) : Bool :=
  match a with
  | ⟨id, ref, types, format, constraints, properties⟩ =>
    id == b.id && ref == b.ref && types == b.types && format == b.format &&
      constraints.same b.constraints && properties.length == b.properties.length &&
      sameProperties properties b.properties

/-- Every property of the first list is in the second with the same schema. -/
def sameProperties (properties others : List (Text × Schema)) : Bool :=
  match properties with
  | [] => true
  | (name, schema) :: rest =>
    (match others.lookup name with
      | some other => same schema other
      | none => false) && sameProperties rest others

end

/-- The schema with a property set: a name that is present keeps its place. -/
def setProperty (properties : List (Text × Schema)) (name : Text) (child : Schema) :
    List (Text × Schema) :=
  match properties with
  | [] => [(name, child)]
  | (other, old) :: rest =>
    if other = name then (name, child) :: rest
    else (other, old) :: setProperty rest name child

/-- A schema with the same identifier, types and reference and with one property replaced or added;
other keywords are dropped. -/
def graft (schema : Schema) (name : Text) (child : Schema) : Schema :=
  { id := schema.id, ref := schema.ref, types := schema.types,
    properties := setProperty schema.properties name child }

/-- A schema with another identifier and the same types, reference and properties; other keywords
are dropped. -/
def renamed (schema : Schema) (id : Text) : Schema :=
  { id, ref := schema.ref, types := schema.types, properties := schema.properties }

end Schema
end RecordGen
