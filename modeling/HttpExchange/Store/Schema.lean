import HttpExchange.Assoc

/-!
# Schemas

The fields of an entity, in order, each with what is to be known for storing and
converting its values. Some fields every entity has.
-/

namespace HttpExchange

/-- What is known of a field. -/
structure FieldDescriptor where
  resultType : Text
  usage : Option Text := none
  required : Bool := false
  multilang : Bool := false
  deriving DecidableEq, Repr

/-- The usage of a field, which names its adapter. Without one it follows from the type. -/
def FieldDescriptor.usageTag (f : FieldDescriptor) : Text :=
  match f.usage with
  | some usage => usage
  | none => if f.resultType = "integer" then "number.integer" else f.resultType

/-- The fields of an entity. -/
structure Schema where
  name : Text
  fields : Assoc FieldDescriptor
  deriving DecidableEq, Repr

namespace Schema

/-- The fields that every entity has. -/
def specialFields : Assoc FieldDescriptor := [
  ("id", { resultType := "integer" }), ("name", { resultType := "string" }),
  ("state", { resultType := "string" }), ("created", { resultType := "datetime" }),
  ("modified", { resultType := "datetime" })]

/-- An entity with no other fields than those that every entity has. -/
def ofName (name : Text) : Schema := ⟨name, specialFields⟩

/-- Adds a field, or describes a known one anew. -/
def withField (name : Text) (f : FieldDescriptor) (s : Schema) : Schema :=
  { s with fields := Assoc.set name f s.fields }

/-- What is known of a field. -/
def field? (name : Text) (s : Schema) : Option FieldDescriptor := Assoc.get? name s.fields

/-- Whether an entity has a field. -/
def contains (name : Text) (s : Schema) : Bool := (s.field? name).isSome

/-- Whether the values of a field depend on the language. -/
def isMultilang (name : Text) (s : Schema) : Bool := (s.field? name).any (·.multilang)

/-- The fields that the store writes itself. -/
def managed : List Text := ["id", "created", "modified"]

/-- Whether a field can be written from outside. -/
def isWritable (name : Text) (s : Schema) : Bool := s.contains name && !managed.contains name

end Schema

end HttpExchange
