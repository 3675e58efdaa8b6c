import EntityBase.Component
import EntityBase.Instant
import EntityBase.Pattern
import EntityBase.Value.Filter
import EntityBase.Value.Scalar

/-!
# Values — what a stack holds

A value is a scalar, a list, a map, a thing of the store, or one of the
tools to ask for such things. The fields of a map are kept in the order of
their keys. There is one entity set, the store of the program, so the value
that stands for it holds nothing.

The kind of a value decides which overload of a word takes it.
-/

namespace EntityBase

/-- A value of the query language. -/
inductive Value where
  | scalar (s : Scalar)
  | list (items : List Value)
  | map (fields : List (String × Value))
  | entity (e : Entity)
  | entitySet
  | component (c : Component)
  | definition (d : Definition)
  | attr (a : Attribute)
  | bitfield (b : Bitfield)
  | pattern (p : Pattern)
  | instant (t : Instant)
  | filter (f : Filter Value)
deriving Inhabited

/-- The kinds of values, and a wildcard that no value is of. -/
inductive Kind where
  | scalar
  | list
  | map
  | entity
  | entitySet
  | component
  | definition
  | attr
  | bitfield
  | pattern
  | instant
  | filter
  | any
deriving DecidableEq, Repr, Inhabited

/-- The name of a kind in messages. -/
def Kind.text : Kind → String
  | .scalar => "value"
  | .list => "list"
  | .map => "map"
  | .entity => "entity"
  | .entitySet => "entity-set"
  | .component => "component"
  | .definition => "def"
  | .attr => "component-attr"
  | .bitfield => "bitfield"
  | .pattern => "regex"
  | .instant => "datetime"
  | .filter => "filter"
  | .any => "any"

namespace Value

/-- The kind of a value. -/
def kind : Value → Kind
  | .scalar _ => .scalar
  | .list _ => .list
  | .map _ => .map
  | .entity _ => .entity
  | .entitySet => .entitySet
  | .component _ => .component
  | .definition _ => .definition
  | .attr _ => .attr
  | .bitfield _ => .bitfield
  | .pattern _ => .pattern
  | .instant _ => .instant
  | .filter _ => .filter

/-- Whether a value may stand where a kind is asked for. -/
def isOf (v : Value) (k : Kind) : Bool := k == .any || k == v.kind

/-- The value `nil`. -/
def nil : Value := .scalar .nil

/-- A truth value. -/
def bool (b : Bool) : Value := .scalar (.bool b)

/-- A whole number. -/
def int (n : Int) : Value := .scalar (.int n)

/-- A text. -/
def text (s : String) : Value := .scalar (.text s)

/-- A quoted word. -/
def quoted (q : QuotedWord) : Value := .scalar (.quoted q)

/-- A value as a whole number. -/
def toInt? : Value → Option Int
  | .scalar s => s.toInt?
  | _ => none

/-- The text or the name that a value is. -/
def name? : Value → Option String
  | .scalar s => s.name?
  | _ => none

/-- Whether a value counts as true. -/
def truthy : Value → Bool
  | .scalar s => s.truthy
  | _ => true

end Value

end EntityBase
