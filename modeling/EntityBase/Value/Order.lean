import EntityBase.Value.Data

/-!
# Equality and order of values

`Value.same` is the equality of the language: numbers are compared as
doubles, patterns by their source, everything else part by part.
`Value.equals` is the equality that programs ask for, in which a pattern
equals the texts that it matches. `Value.order?` orders numbers, texts,
truth values and dates, each among themselves.
-/

namespace EntityBase

namespace Value

mutual

/-- Equality of values. -/
def same : Value → Value → Bool
  | .scalar a, .scalar b => a.same b
  | .list a, .list b => sameItems a b
  | .map a, .map b => sameFields a b
  | .entity a, .entity b => a.same b
  | .entitySet, .entitySet => true
  | .component a, .component b => a.same b
  | .definition a, .definition b => a.same b
  | .attr a, .attr b => a.same b
  | .bitfield a, .bitfield b => a.same b
  | .pattern a, .pattern b => a.same b
  | .instant a, .instant b => a.order b == .eq
  | .filter a, .filter b => sameFilter a b
  | _, _ => false

/-- Equality item by item. -/
def sameItems : List Value → List Value → Bool
  | [], [] => true
  | a :: as, b :: bs => same a b && sameItems as bs
  | _, _ => false

/-- Equality key by key and value by value. -/
def sameFields : List (String × Value) → List (String × Value) → Bool
  | [], [] => true
  | (j, a) :: as, (k, b) :: bs => j == k && same a b && sameFields as bs
  | _, _ => false

/-- Equality of filters, part by part. -/
def sameFilter : Filter Value → Filter Value → Bool
  | .and a b, .and c d => sameFilter a c && sameFilter b d
  | .or a b, .or c d => sameFilter a c && sameFilter b d
  | .compare p a v, .compare q b w => p == q && a.same b && same v w
  | _, _ => false

end

/-- The equality that programs ask for: a pattern on either side equals the
texts that it matches. -/
def equals : Value → Value → Bool
  | .pattern p, .scalar (.text s) => p.isMatch s
  | .scalar (.text s), .pattern p => p.isMatch s
  | a, b => a.same b

/-- The order of two doubles, if neither of them is no number. -/
def floatOrder? (x y : Float) : Option Ordering :=
  if x < y then some .lt else if y < x then some .gt else if x == y then some .eq else none

/-- The order of two values, if they can be ordered. -/
def order? : Value → Value → Option Ordering
  | .scalar (.text a), .scalar (.text b) => some (compare a b)
  | .scalar (.bool a), .scalar (.bool b) => some (compare a b)
  | .scalar a, .scalar b =>
    match a.toFloat?, b.toFloat? with
    | some x, some y => floatOrder? x y
    | _, _ => none
  | .instant a, .instant b => some (a.order b)
  | _, _ => none

end Value

end EntityBase
