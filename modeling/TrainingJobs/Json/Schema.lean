import TrainingJobs.Json.Basic

/-!
# Schemas

A schema tells which JSON values may stand in a place. It is published as JSON itself, and
`accepts` says which values it means. Members that a record does not name are accepted: the API
server drops them.
-/

namespace TrainingJobs

open Json

/-- How long a whole number may be. -/
inductive IntegerFormat where
  | int32
  | int64
  deriving DecidableEq, Repr

namespace IntegerFormat

def name : IntegerFormat → String
  | int32 => "int32"
  | int64 => "int64"

/-- Whether a number is not too long. -/
def holds (n : Int) : IntegerFormat → Bool
  | int32 => (Text.int32? n).isSome
  | int64 => (Text.int64? n).isSome

end IntegerFormat

/-- What is said of a value besides its type. -/
structure SchemaNote where
  description : Option String := none
  /-- The value that is taken when there is none. -/
  default_ : Option Json := none
  /-- Whether the value may be null. -/
  nullable : Bool := false

namespace SchemaNote

def members (n : SchemaNote) : List (String × Json) :=
  optionalMember "description" str n.description
    ++ optionalMember "default" id n.default_
    ++ if n.nullable then member "nullable" (bool true) else []

end SchemaNote

/-- Which JSON values may stand in a place. -/
inductive Schema where
  | text
  | integer (format : IntegerFormat)
  /-- One of a few texts. -/
  | oneOf (texts : List String)
  | list (items : Schema)
  /-- An object whose members are all alike. -/
  | dictionary (values : Schema)
  /-- An object with members of its own kind for each name. -/
  | record (fields : List (String × Schema)) (required : List String)
  /-- Any object. -/
  | anyObject
  /-- A schema with a note. -/
  | noted (note : SchemaNote) (schema : Schema)

namespace Schema

def typeMember (name : String) : List (String × Json) := member "type" name

mutual

def members : Schema → List (String × Json)
  | text => typeMember "string"
  | integer format => typeMember "integer" ++ member "format" format.name
  | oneOf texts => typeMember "string" ++ member "enum" (ofList str texts)
  | list items => typeMember "array" ++ member "items" (obj items.members)
  | dictionary values =>
    typeMember "object" ++ member "additionalProperties" (obj values.members)
  | record fields required =>
    typeMember "object" ++ member "properties" (obj (fieldMembers fields))
      ++ if required.isEmpty then [] else member "required" (ofList str required)
  | anyObject => typeMember "object" ++ member "x-kubernetes-preserve-unknown-fields" (bool true)
  | noted note schema => note.members ++ schema.members

/-- The schemas of the fields of a record as they are published. -/
def fieldMembers : List (String × Schema) → List (String × Json)
  | [] => []
  | (name, schema) :: rest => (name, obj schema.members) :: fieldMembers rest

end

def toJson (s : Schema) : Json := obj s.members

mutual

/-- Whether a value may stand in the place. -/
def accepts : Schema → Json → Bool
  | noted note schema, value =>
    match value with
    | null => note.nullable || schema.accepts null
    | value => schema.accepts value
  | text, str _ => true
  | integer format, int n => format.holds n
  | oneOf texts, str s => texts.contains s
  | list items, arr values => values.all fun value => items.accepts value
  | dictionary values, obj ms => ms.all fun m => values.accepts m.2
  | record fields required, obj ms =>
    (required.all fun name => ms.any fun m => m.1 == name) && acceptsFields fields ms
  | anyObject, obj _ => true
  | _, _ => false

/-- Whether the members of an object may stand in the fields of a record. -/
def acceptsFields : List (String × Schema) → List (String × Json) → Bool
  | [], _ => true
  | (name, schema) :: rest, ms =>
    (ms.all fun m => m.1 != name || schema.accepts m.2) && acceptsFields rest ms

end

def described (s : Schema) (description : String) : Schema :=
  noted { description := some description } s

def nullable (s : Schema) : Schema := noted { nullable := true } s

/-- The schema of a value that may be missing, with the value that is taken then. -/
def withDefault (s : Schema) (value : Json) : Schema := noted { default_ := some value } s

def int32 : Schema := integer .int32

def int64 : Schema := integer .int64

end Schema

end TrainingJobs
