import EntityBase.Value.Text

/-!
# Values and stored data

Every value can be stored. Lists and maps become arrays and objects item by
item; a date becomes its text, a pattern its source, a component its
record, an entity its id, and anything else its display. Reading stored
data back gives scalars, lists and maps only; a whole number that does not
fit into 64 bits becomes a double.
-/

namespace EntityBase.Value

mutual

/-- A value as stored data. -/
def toJson : Value → Json
  | .scalar s => s.toJson
  | .list items => .array (toJsonItems items)
  | .map fields => .object (toJsonFields fields)
  | .instant t => .string t.millisText
  | .pattern p => .string p.source
  | .component c => .object (c.record none).entries
  | .entity e => .int e.id
  | v => .string v.display

/-- Items as stored data. -/
def toJsonItems : List Value → List Json
  | [] => []
  | v :: rest => toJson v :: toJsonItems rest

/-- Fields as stored data. -/
def toJsonFields : List (String × Value) → List (String × Json)
  | [] => []
  | (k, v) :: rest => (k, toJson v) :: toJsonFields rest

end

mutual

/-- Stored data as a value. -/
def ofJson : Json → Value
  | .null => nil
  | .bool b => bool b
  | .int n => if Binary64.fitsInt64 n then int n else .scalar (.float (Float.ofInt n))
  | .float x => .scalar (.float x)
  | .string s => text s
  | .array items => .list (ofJsonItems items)
  | .object fields => .map (ofJsonFields fields)

/-- Stored items as values. -/
def ofJsonItems : List Json → List Value
  | [] => []
  | j :: rest => ofJson j :: ofJsonItems rest

/-- Stored fields as values. -/
def ofJsonFields : List (String × Json) → List (String × Value)
  | [] => []
  | (k, j) :: rest => (k, ofJson j) :: ofJsonFields rest

end

end EntityBase.Value
