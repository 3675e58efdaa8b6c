/-!
# Doubles — floating-point numbers as exact fractions

A finite double is a sign and a natural number times a power of two. Read
so, the questions that the query language asks of a double become exact
arithmetic on naturals: whether it is an integer, which integer it is once
clamped to 64 bits, and what its remainder by another double is. The
remainder of two doubles is a double again, so `ofParts` never rounds
where it is used.
-/

namespace EntityBase.Binary64

/-- The size of a double, without its sign. -/
inductive Magnitude where
  | nan
  | infinite
  /-- `mantissa * 2 ^ exponent` -/
  | finite (mantissa : Nat) (exponent : Int)
deriving DecidableEq, Repr

/-- Whether the sign bit is set; also so for `-0.0`. -/
def isNegative (x : Float) : Bool := x.toBits >>> 63 == 1

/-- The leading bit of a mantissa, which most doubles leave out. -/
def hiddenBit : Nat := 0x10000000000000

/-- The size of `x`, read off its bits. -/
def magnitude (x : Float) : Magnitude :=
  let exponentField := ((x.toBits >>> 52) &&& 0x7FF).toNat
  let fractionField := (x.toBits &&& 0xFFFFFFFFFFFFF).toNat
  if exponentField = 0x7FF then
    if fractionField = 0 then .infinite else .nan
  else if exponentField = 0 then .finite fractionField (-1074)
  else .finite (hiddenBit + fractionField) (exponentField - 1075)

/-- Whether `x` is neither infinite nor the result of no number. -/
def isFinite (x : Float) : Bool :=
  match magnitude x with
  | .finite .. => true
  | _ => false

/-- The double `mantissa * 2 ^ exponent` with the given sign, for a size
that some double has: the mantissa is moved until it fills its field. -/
def ofParts (negative : Bool) (mantissa : Nat) (exponent : Int) : Float :=
  let signField : Nat := if negative then 0x8000000000000000 else 0
  if mantissa = 0 then Float.ofBits (UInt64.ofNat signField)
  else
    let leading : Int := mantissa.log2 + exponent
    let place : Int := max (leading - 52) (-1074)
    let filled := (mantissa <<< (exponent - place).toNat) >>> (place - exponent).toNat
    let field := if filled < hiddenBit then filled
      else filled - hiddenBit + (place + 1075).toNat * hiddenBit
    Float.ofBits (UInt64.ofNat (signField + field))

/-- The integer that `x` is, if it is one. -/
def toInt? (x : Float) : Option Int :=
  match magnitude x with
  | .finite m e =>
    let n := m <<< e.toNat
    let d := 1 <<< (-e).toNat
    if n % d = 0 then some (if isNegative x then -(n / d : Nat) else (n / d : Nat)) else none
  | _ => none

/-- The least integer of 64 bits. -/
def minInt64 : Int := -9223372036854775808

/-- The greatest integer of 64 bits. -/
def maxInt64 : Int := 9223372036854775807

/-- Whether an integer has 64 bits. -/
def fitsInt64 (n : Int) : Bool := minInt64 ≤ n && n ≤ maxInt64

/-- The integer that `x` is, clamped to 64 bits; nothing for a fraction. -/
def toInt64? (x : Float) : Option Int :=
  (toInt? x).map fun n => max minInt64 (min maxInt64 n)

/-- What remains of `x` after taking away `y` as often as it goes, with the
sign of `x`. -/
def remainder (x y : Float) : Float :=
  match magnitude x, magnitude y with
  | .finite m e, .finite n f =>
    if n = 0 then 0.0 / 0.0
    else
      let g := min e f
      ofParts (isNegative x) ((m <<< (e - g).toNat) % (n <<< (f - g).toNat)) g
  | .finite .., .infinite => x
  | _, _ => 0.0 / 0.0

example : toInt? 3.0 = some 3 := by decide +kernel
example : toInt? (-2.5) = none := by decide +kernel
example : remainder 5.5 2.0 = 1.5 := by decide +kernel
example : remainder (-1.0) 0.75 = -0.25 := by decide +kernel

end EntityBase.Binary64
