import EntityBase.Value.Order

/-!
# Collections — positions, keys and set algebra

A position in a list counts from its front, or from its end if it is
negative. The set operations on lists keep the first of several equal
items, in the order in which these come; those on maps go by keys.
-/

namespace EntityBase

/-- The operations of set algebra. -/
inductive SetOp where
  | union
  | intersect
  | diff
deriving DecidableEq, Repr

namespace Value

/-- The place that a position means in a list of `length` items. -/
def place? (length : Nat) (position : Int) : Option Nat :=
  if 0 ≤ position then
    if position.toNat < length then some position.toNat else none
  else if position.natAbs ≤ length then some (length - position.natAbs) else none

/-- The item at a position; nothing counts as `nil`. -/
def itemAt (items : List Value) (position : Int) : Value :=
  ((place? items.length position).bind fun i => items[i]?).getD nil

/-- The list with another item at a position; the place behind the last
item is one too. -/
def putAt? (items : List Value) (position : Int) (v : Value) : Option (List Value) :=
  match place? items.length position with
  | some i => some (items.set i v)
  | none => if position = items.length then some (items ++ [v]) else none

/-- Whether some item equals the value. -/
def isIn (v : Value) (items : List Value) : Bool := items.any fun item => item.same v

/-- The items that equal neither one of `seen` nor an item before them. -/
def firstOnes (seen : List Value) : List Value → List Value
  | [] => []
  | v :: rest =>
    if v.isIn seen then firstOnes seen rest else v :: firstOnes (v :: seen) rest

end Value

namespace SetOp

/-- The operation on lists. -/
def onLists (op : SetOp) (a b : List Value) : List Value :=
  match op with
  | .union => Value.firstOnes [] (a ++ b)
  | .intersect => Value.firstOnes [] (a.filter fun v => v.isIn b)
  | .diff => Value.firstOnes [] (a.filter fun v => !v.isIn b)

/-- The operation on maps. In a union the right operand wins. -/
def onMaps (op : SetOp) (a b : List (String × Value)) : List (String × Value) :=
  match op with
  | .union => Entries.extend a b
  | .intersect => a.filter fun e => Entries.contains e.1 b
  | .diff => a.filter fun e => !Entries.contains e.1 b

/-- The operation on bitfields. -/
def onBitfields (op : SetOp) (a b : Bitfield) : Bitfield :=
  match op with
  | .union => a.union b
  | .intersect => a.intersect b
  | .diff => a.difference b

/-- The operation on two values of one kind that has it. -/
def combine? (op : SetOp) : Value → Value → Option Value
  | .list a, .list b => some (.list (op.onLists a b))
  | .map a, .map b => some (.map (op.onMaps a b))
  | .bitfield a, .bitfield b => some (.bitfield (op.onBitfields a b))
  | _, _ => none

end SetOp

end EntityBase
