import EntityBase.Digest
import EntityBase.Ids
import EntityBase.Json

/-!
# Schemas — what a component definition declares

A schema has a uri, a display name and a sequence of properties; a
definition is a schema that was registered and has an id. Its content is
the uri and the properties in order, and `Schema.contentHash` digests
exactly that: `Schema.canonical` is the stored value whose text is hashed,
and the name has no part in it.

The declared type of a property decides how entities are ordered by it;
values are never converted to it.
-/

namespace EntityBase

/-- The declared type of a property. -/
inductive PropertyType where
  | string
  | integer
  | number
  | boolean
  | datetime
  | json
deriving DecidableEq, Repr, Inhabited

namespace PropertyType

/-- The type that a name in any case stands for. -/
def ofName? (name : String) : Option PropertyType :=
  match name.map Char.toLower with
  | "string" | "str" | "text" => some .string
  | "integer" | "int" => some .integer
  | "number" | "float" => some .number
  | "boolean" | "bool" => some .boolean
  | "datetime" | "date" => some .datetime
  | "json" | "object" | "array" | "any" => some .json
  | _ => none

/-- The canonical name. -/
def name : PropertyType → String
  | .string => "string"
  | .integer => "integer"
  | .number => "number"
  | .boolean => "boolean"
  | .datetime => "datetime"
  | .json => "json"

/-- The canonical name of a type stands for it. -/
theorem ofName?_name (t : PropertyType) : ofName? t.name = some t := by
  cases t <;> decide +kernel

end PropertyType

/-- One property of a schema. -/
structure Property where
  name : String
  type : PropertyType := .string
  /-- what a fresh component holds there -/
  default : Option Json := none
deriving Inhabited

/-- What a definition declares, before it has an id. -/
structure Schema where
  uri : String
  name : Option String := none
  properties : List Property := []
deriving Inhabited

/-- A registered schema. -/
structure Definition where
  id : DefId
  uri : String
  name : Option String
  properties : List Property
  hash : String
deriving Inhabited

namespace Property

/-- Equality of properties, their defaults compared as stored values. -/
def same (p q : Property) : Bool :=
  p.name == q.name && p.type == q.type &&
    match p.default, q.default with
    | none, none => true
    | some a, some b => a.same b
    | _, _ => false

/-- Equality of sequences of properties. -/
def sameAll : List Property → List Property → Bool
  | [], [] => true
  | p :: ps, q :: qs => p.same q && sameAll ps qs
  | _, _ => false

/-- The content of a property: a missing default reads as `null`. -/
def canonical (p : Property) : Json :=
  .array [.string p.name, .string p.type.name, p.default.getD .null]

end Property

namespace Schema

/-- The content of a schema as stored data. -/
def canonical (s : Schema) : Json :=
  .object [("properties", .array (s.properties.map Property.canonical)), ("uri", .string s.uri)]

/-- The digest of the content. -/
def contentHash (s : Schema) : String := Digest.shortHex s.canonical.text

/-- Equality of schemas, names included. -/
def same (a b : Schema) : Bool :=
  a.uri == b.uri && a.name == b.name && Property.sameAll a.properties b.properties

/-- The definition of a schema under an id. -/
def define (s : Schema) (id : DefId) : Definition :=
  { id, uri := s.uri, name := s.name, properties := s.properties, hash := s.contentHash }

end Schema

namespace Definition

/-- The schema that was registered. -/
def schema (d : Definition) : Schema :=
  { uri := d.uri, name := d.name, properties := d.properties }

/-- The first property with the given name. -/
def property? (d : Definition) (name : String) : Option Property :=
  d.properties.find? (·.name == name)

/-- The fields with which every fresh component starts. -/
def defaults (d : Definition) : Table String Json :=
  Table.ofList (d.properties.filterMap fun p => p.default.map fun v => (p.name, v))

/-- Equality of definitions, ids and hashes included. -/
def same (a b : Definition) : Bool :=
  a.id == b.id && a.uri == b.uri && a.name == b.name &&
    Property.sameAll a.properties b.properties && a.hash == b.hash

end Definition

end EntityBase
