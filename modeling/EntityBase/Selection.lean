import EntityBase.Instant.Reader
import EntityBase.Machine.Word
import EntityBase.Store.Basic
import EntityBase.Value.Order

/-!
# Selection — which entities, in which order

`Filter.apply` keeps the candidates that pass a filter. A leaf holds of an
entity when its shape meets the mask of the attribute and some component
by a definition of that mask has a value at the pointer that passes the
comparison; the kind of the operand decides what a comparison asks.

`OrderBy.sort` is stable. Entities without a key go last in both
directions. `Selection.ids` puts the pieces together: candidates, shape,
filter, order, page.
-/

namespace EntityBase

/-! ## Fields and operands -/

/-- A date that is stored as text or as milliseconds. -/
def fieldInstant? : Json → Option Instant
  | .string s => Instant.parse? s
  | .int n => if Binary64.fitsInt64 n then Instant.ofMillis? n else none
  | _ => none

/-- Whether something was found, as `==` and `!=` ask for it; no order asks
for it. -/
def CompareOp.ofFound (op : CompareOp) (found : Bool) : Bool :=
  match op with
  | .eq => found
  | .ne => !found
  | _ => false

/-- Whether a pattern matches a text or one of several texts. -/
def fieldMatches (p : Pattern) : Json → Bool
  | .string s => p.isMatch s
  | .array items => items.any fun item =>
    match item with
    | .string s => p.isMatch s
    | _ => false
  | _ => false

/-- Compares a stored value with a scalar as two values. -/
def compareScalar (field : Json) (op : CompareOp) (operand : Value) : Bool :=
  let value := Value.ofJson field
  match op with
  | .eq => value.same operand
  | .ne => !value.same operand
  | op =>
    match value.order? operand with
    | some o => op.holds o
    | none => false

/-- Whether a stored value passes a comparison. A list asks for membership,
a pattern for a match, a date for the order in time. A scalar is compared
with the value, or for equality with the items of an array. -/
def compareField (field : Json) (op : CompareOp) (operand : Value) : Bool :=
  match operand with
  | .list items => op.ofFound (items.any fun item => (Value.ofJson field).equals item)
  | .pattern p => op.ofFound (fieldMatches p field)
  | .instant t =>
    match fieldInstant? field with
    | some stored => op.holds (stored.order t)
    | none => false
  | .scalar _ =>
    match field, op with
    | .array items, .eq => items.any fun item => (Value.ofJson item).same operand
    | .array items, .ne => !items.any fun item => (Value.ofJson item).same operand
    | field, op => compareScalar field op operand
  | _ => false

/-! ## Filters -/

/-- The stored value of an attribute in the component by the definition
`d`. -/
def Store.fieldBy? (s : Store) (a : Attribute) (id : EntityId) (d : DefId) : Option Json :=
  (s.component? ⟨id, d⟩).bind fun c => c.pointer? a.pointer

/-- Whether an entity passes a comparison. -/
def Store.passes (s : Store) (op : CompareOp) (a : Attribute) (operand : Value) (id : EntityId) :
    Bool :=
  match s.shape? id with
  | some shape =>
    a.mask.matchesShape shape &&
      a.mask.toList.any fun d =>
        match s.fieldBy? a id d with
        | some field => compareField field op operand
        | none => false
  | none => false

/-- Entity ids as a set. -/
def idSet (ids : List EntityId) : KeySet EntityId := Table.ofList (ids.map fun id => (id, ()))

/-- The candidates that pass a filter, in the order in which they are
given. -/
def Filter.apply (s : Store) : Filter Value → List EntityId → List EntityId
  | .and l r, ids =>
    let passed := l.apply s ids
    if passed.isEmpty then [] else r.apply s passed
  | .or l r, ids =>
    let hits := idSet (l.apply s ids ++ r.apply s ids)
    ids.filter fun id => hits.contains id
  | .compare op a operand, ids => ids.filter fun id => s.passes op a operand id

/-! ## Order -/

/-- The directions of an order. -/
inductive Direction where
  | ascending
  | descending
deriving DecidableEq, Repr, Inhabited

/-- The direction that a word stands for. -/
def Direction.ofName? (name : String) : Option Direction :=
  match name.map Char.toLower with
  | "asc" => some .ascending
  | "desc" => some .descending
  | _ => none

/-- An order by an attribute. -/
structure OrderBy where
  attr : Attribute
  direction : Direction
deriving DecidableEq, Repr, Inhabited

/-- What entities are ordered by. -/
inductive SortKey where
  | text (s : String)
  | number (x : Float)
deriving DecidableEq, Repr, Inhabited

namespace SortKey

/-- The order of two keys; numbers that are none are equal to everything. -/
def order : SortKey → SortKey → Ordering
  | .text a, .text b => compare a b
  | .number a, .number b => (Value.floatOrder? a b).getD .eq
  | .text _, .number _ => .lt
  | .number _, .text _ => .gt

/-- The key of a stored value under the declared type of its property. Texts
are ordered without regard to case, dates by their milliseconds. -/
def ofField? (type : PropertyType) (field : Json) : Option SortKey :=
  match type with
  | .string =>
    match field with
    | .string s => some (.text (Text.lower s))
    | _ => none
  | .integer | .number => field.toFloat?.map .number
  | .datetime => (fieldInstant? field).map fun t => .number (Float.ofInt t.toMillis)
  | .boolean | .json => some (.text field.text)

end SortKey

namespace OrderBy

/-- The name of the field that a pointer starts with. -/
def fieldName (pointer : String) : String :=
  String.ofList ((pointer.toList.dropWhile (· == '/')).takeWhile (· != '/'))

/-- The type under which the attribute orders. -/
def type (o : OrderBy) (d : Definition) : PropertyType :=
  match d.property? (fieldName o.attr.pointer) with
  | some p => p.type
  | none => .json

/-- The key of an entity. -/
def key? (o : OrderBy) (s : Store) (d : Definition) (id : EntityId) : Option SortKey :=
  (s.fieldBy? o.attr id d.id).bind (SortKey.ofField? (o.type d))

/-- Whether an entity with the first key may stand before one with the
second. -/
def precedes (direction : Direction) : Option SortKey → Option SortKey → Bool
  | some a, some b =>
    match direction with
    | .ascending => (a.order b).isLE
    | .descending => (b.order a).isLE
  | some _, none => true
  | none, some _ => false
  | none, none => true

/-- The entities in order, those without a key last. An attribute of no
registered definition orders nothing. -/
def sort (o : OrderBy) (s : Store) (ids : List EntityId) : List EntityId :=
  match o.attr.defId?.bind fun d => s.definition? (.id d) with
  | some d =>
    ((ids.map fun id => (id, o.key? s d id)).mergeSort fun a b =>
      precedes o.direction a.2 b.2).map (·.1)
  | none => ids

end OrderBy

/-! ## Select programs -/

/-- What a select program has set so far. -/
structure Selection where
  order : Option OrderBy := none
  offset : Nat := 0
  limit : Option Nat := none
  count : Bool := false
  /-- whether something was read already -/
  read : Bool := false
deriving Inhabited

namespace Selection

/-- The entities that are stored and meet a mask, if there is one. -/
def shaped (s : Store) (mask : Option Bitfield) (ids : List EntityId) : List EntityId :=
  ids.filter fun id =>
    match mask, s.shape? id with
    | _, none => false
    | some mask, some shape => mask.matchesShape shape
    | none, some _ => true

/-- The candidates that are stored and pass mask and filter. Without
candidates, every stored entity is one. -/
def narrowed (s : Store) (candidates : Option (List EntityId)) (filter : Option (Filter Value))
    (mask : Option Bitfield) : List EntityId :=
  let ids := shaped s mask (candidates.getD s.entityIds)
  match filter with
  | some f => f.apply s ids
  | none => ids

/-- One page of entities in order. -/
def page (sel : Selection) (s : Store) (ids : List EntityId) : List EntityId :=
  let ids := match sel.order with
    | some o => o.sort s ids
    | none => ids
  let ids := ids.drop sel.offset
  match sel.limit with
  | some n => ids.take n
  | none => ids

/-- The rows of an entity that a mask asks for. -/
def rows (s : Store) (mask : Option Bitfield) (id : EntityId) : List (DefId × Component) :=
  match s.entity? id .all with
  | some e => e.components.entries.filter fun (d, _) =>
    match mask with
    | some m => m.all || m.contains d
    | none => true
  | none => []

/-- What a reader makes of an entity. -/
def readOne (s : Store) (reader : Reader) (mask : Option Bitfield) (id : EntityId) : List Value :=
  match reader with
  | .entityIds => [.int id]
  | .entities =>
    match s.entity? id .all with
    | some e => [.entity e]
    | none => []
  | .components => (rows s mask id).map fun (_, c) => .component c
  | .componentIds => (rows s mask id).map fun (d, _) => .list [.int id, .int d]

/-- What a reader leaves: a list, or the number of entities. -/
def readAll (sel : Selection) (s : Store) (reader : Reader)
    (candidates : Option (List EntityId)) (filter : Option (Filter Value))
    (mask : Option Bitfield) : Value :=
  let ids := sel.page s (narrowed s candidates filter mask)
  if sel.count then .int ids.length
  else .list (ids.flatMap (readOne s reader mask))

/-- What reading an attribute leaves: the values, or their number. -/
def readField (sel : Selection) (s : Store) (a : Attribute)
    (candidates : Option (List EntityId)) (filter : Option (Filter Value)) : Value :=
  let ids := sel.page s (narrowed s candidates filter (some a.mask))
  let values := ids.flatMap fun id =>
    a.mask.toList.filterMap fun d => (s.fieldBy? a id d).map Value.ofJson
  if sel.count then .int values.length else .list values

end Selection

end EntityBase
