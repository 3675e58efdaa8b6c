import EntityBase.Decimal
import EntityBase.Table
import EntityBase.Text.Quoted

/-!
# Stored data — values, their equality and their text

The fields of a component and the defaults of a property are trees of
data. Whole numbers and doubles are kept apart: `1` and `1.0` are two
values with two texts. The fields of an object are an association list
in key order, so an object has one representation.

`render` writes the compact text that is shown, exported and hashed; a
double is written in the layout `Decimal.stored`.
-/

namespace EntityBase

/-- A value that can be stored. -/
inductive Json where
  | null
  | bool (b : Bool)
  | int (n : Int)
  | float (x : Float)
  | string (s : String)
  | array (items : List Json)
  | object (fields : List (String × Json))
deriving Inhabited

namespace Json

mutual

/-- Equality of stored values. Doubles are compared as numbers, so `0.0`
and `-0.0` are equal; a whole number never equals a double. -/
def same : Json → Json → Bool
  | .null, .null => true
  | .bool a, .bool b => a == b
  | .int a, .int b => a == b
  | .float a, .float b => a == b
  | .string a, .string b => a == b
  | .array a, .array b => sameItems a b
  | .object a, .object b => sameFields a b
  | _, _ => false

/-- Equality item by item. -/
def sameItems : List Json → List Json → Bool
  | [], [] => true
  | a :: as, b :: bs => same a b && sameItems as bs
  | _, _ => false

/-- Equality field by field, names included. -/
def sameFields : List (String × Json) → List (String × Json) → Bool
  | [], [] => true
  | (j, a) :: as, (k, b) :: bs => j == k && same a b && sameFields as bs
  | _, _ => false

end

/-- A double as stored data: what is not finite is stored as `null`. -/
def ofFloat (x : Float) : Json := if Binary64.isFinite x then .float x else .null

/-- A number as a double: a whole number is rounded to the nearest one. -/
def toFloat? : Json → Option Float
  | .int n => some (Float.ofInt n)
  | .float x => some x
  | _ => none

/-- A whole number of 64 bits. -/
def toInt64? : Json → Option Int
  | .int n => if Binary64.fitsInt64 n then some n else none
  | _ => none

/-- The decimal text of an integer. -/
def renderInt (n : Int) : List Char :=
  if n < 0 then '-' :: Nat.toDigits 10 n.natAbs else Nat.toDigits 10 n.natAbs

mutual

/-- The compact text of a value. -/
def render : Json → List Char
  | .null => ['n', 'u', 'l', 'l']
  | .bool true => ['t', 'r', 'u', 'e']
  | .bool false => ['f', 'a', 'l', 's', 'e']
  | .int n => renderInt n
  | .float x => (Decimal.stored.text x).toList
  | .string s => Text.Quoted.encode s
  | .array items => '[' :: renderItems items
  | .object fields => '\x7b' :: renderFields fields

/-- Items with commas between them, and the closing bracket. -/
def renderItems : List Json → List Char
  | [] => [']']
  | [item] => render item ++ [']']
  | item :: rest => render item ++ ',' :: renderItems rest

/-- Fields with commas between them, and the closing brace. -/
def renderFields : List (String × Json) → List Char
  | [] => ['\x7d']
  | [(key, value)] => Text.Quoted.encode key ++ ':' :: (render value ++ ['\x7d'])
  | (key, value) :: rest =>
    Text.Quoted.encode key ++ ':' :: (render value ++ ',' :: renderFields rest)

end

/-- The compact text of a value, as a string. -/
def text (value : Json) : String := String.ofList value.render

example : text (.object [("a", .array [.int (-3), .float 1.5]), ("b", .null)])
    = "\x7b\"a\":[-3,1.5],\"b\":null\x7d" := by decide +kernel

end Json

end EntityBase
