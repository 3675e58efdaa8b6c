import EntityBase.Binary64

/-!
# Decimals — the shortest digits of a double, and their layout

A double is written with the fewest digits that read back to it, and of
those with the ones nearest to it. The reals that round to a double form
an interval; `Interval.holds` compares a decimal with its ends by
cross-multiplying, so no step rounds. The search tries grids of one digit,
two digits and so on, each at the two neighbours of the value.

Two texts are written that way, and `Layout` holds where they part: the
display of a value on the stack, and the text of a number inside stored
data.
-/

namespace EntityBase.Decimal

open Binary64

/-- `digits * 10 ^ exponent`. -/
structure Scaled where
  digits : Nat
  exponent : Int
deriving DecidableEq, Repr

/-- What to write when two decimals of one length are equally near. -/
inductive Tie where
  | toEven
  | up
deriving DecidableEq, Repr

/-- Compares `a * 10 ^ i` with `n * 2 ^ j`. -/
def compareScaled (a : Nat) (i : Int) (n : Nat) (j : Int) : Ordering :=
  compare ((a * Nat.pow 10 i.toNat) <<< (-j).toNat) ((n * Nat.pow 10 (-i).toNat) <<< j.toNat)

/-- Whether `d` lies among the reals that round to `m * 2 ^ e`: between the
middles to both neighbours, where the lower neighbour of a power of two is
nearer, and with the middles themselves when `m` is even. -/
def readsBack (m : Nat) (e : Int) (d : Scaled) : Bool :=
  let low := if m = hiddenBit ∧ e ≠ -1074 then 4 * m - 1 else 4 * m - 2
  let atLow := compareScaled d.digits d.exponent low (e - 2)
  let atHigh := compareScaled d.digits d.exponent (4 * m + 2) (e - 2)
  (atLow == .gt || (m % 2 == 0 && atLow == .eq)) &&
    (atHigh == .lt || (m % 2 == 0 && atHigh == .eq))

/-- The least `k` with `m * 2 ^ e < 10 ^ k`. The binary logarithm gives a
lower bound that is at most four short. -/
def wholeDigits (m : Nat) (e : Int) : Int :=
  let guess : Int := (m.log2 + e) * 1233 / 4096 - 1
  match [0, 1, 2, 3].find? fun i => compareScaled 1 (guess + i) m e == .gt with
  | some i => guess + i
  | none => guess + 4

/-- The nearest decimal on the grid of `10 ^ g` that reads back, if one does. -/
def onGrid? (tie : Tie) (m : Nat) (e g : Int) : Option Scaled :=
  let below := (m <<< e.toNat) * Nat.pow 10 (-g).toNat / (Nat.pow 10 g.toNat <<< (-e).toNat)
  let low : Scaled := ⟨below, g⟩
  let high : Scaled := ⟨below + 1, g⟩
  match readsBack m e low, readsBack m e high with
  | true, true =>
    match compareScaled (2 * below + 1) g (2 * m) e with
    | .gt => some low
    | .lt => some high
    | .eq => some (match tie with
      | .up => high
      | .toEven => if below % 2 = 0 then low else high)
  | true, false => some low
  | false, true => some high
  | false, false => none

/-- Moves the zeros at the end of the digits into the exponent. -/
def stripZeros : Nat → Scaled → Scaled
  | 0, d => d
  | n + 1, d =>
    if d.digits % 10 = 0 ∧ d.digits ≠ 0 then stripZeros n ⟨d.digits / 10, d.exponent + 1⟩ else d

/-- The fewest digits that read back to `m * 2 ^ e`, for `m ≠ 0`. Seventeen
suffice; the exact value stands in where none of them did. -/
def shortest (tie : Tie) (m : Nat) (e : Int) : Scaled :=
  let k := wholeDigits m e
  let found := (List.range 17).findSome? fun (i : Nat) => onGrid? tie m e (k - 1 - (i : Int))
  stripZeros 20 (found.getD ⟨(m <<< e.toNat) * Nat.pow 5 (-e).toNat, min e 0⟩)

/-- Where the two written forms of a double part. -/
structure Layout where
  /-- which way an exact tie goes -/
  tie : Tie
  /-- the least exponent of a first digit for a point in place -/
  least : Int
  /-- what stands before a positive exponent -/
  plus : String

/-- Digits with the point after the first `k` of them, zeros filling what is
missing on either side. -/
def positional (digits : List Char) (k : Int) : List Char :=
  if k ≤ 0 then '0' :: '.' :: (List.replicate (-k).toNat '0' ++ digits)
  else if digits.length ≤ k.toNat then
    digits ++ List.replicate (k.toNat - digits.length) '0' ++ ['.', '0']
  else digits.take k.toNat ++ '.' :: digits.drop k.toNat

/-- The digits of a decimal, laid out. The exponent of the first digit
decides: from the least one and below `16` the point is in place, else
there is an exponent. -/
def Layout.unsigned (layout : Layout) (d : Scaled) : String :=
  let digits := Nat.toDigits 10 d.digits
  let first : Int := digits.length - 1 + d.exponent
  if layout.least ≤ first ∧ first < 16 then String.ofList (positional digits (first + 1))
  else
    let mantissa := match digits with
      | [] => []
      | [c] => [c]
      | c :: rest => c :: '.' :: rest
    let exponent := if first < 0 then toString first else layout.plus ++ toString first
    String.ofList mantissa ++ "e" ++ exponent

/-- The text of a double. -/
def Layout.text (layout : Layout) (x : Float) : String :=
  let sign := if isNegative x then "-" else ""
  match magnitude x with
  | .nan => "NaN"
  | .infinite => sign ++ "inf"
  | .finite 0 _ => sign ++ "0.0"
  | .finite m e => sign ++ layout.unsigned (shortest layout.tie m e)

/-- The layout of a value on the stack: `1e16` and `1e-5`, ties go up. -/
def displayed : Layout := ⟨.up, -4, ""⟩

/-- The layout of a number in stored data: `1e+16` and `0.00001`, ties go to
even. -/
def stored : Layout := ⟨.toEven, -5, "+"⟩

/-- The number of decimal digits of `n`. -/
def digitCount (n : Nat) : Nat := (Nat.toDigits 10 n).length

/-- The double nearest to `digits * 10 ^ exponent`. Decimals out of reach of
every double are settled by their order of magnitude alone. -/
def toFloat (digits : Nat) (exponent : Int) : Float :=
  let order : Int := digitCount digits + exponent
  if digits = 0 then 0.0
  else if 400 < order then 1.0 / 0.0
  else if order < -400 then 0.0
  else if 0 ≤ exponent then Float.ofScientific digits false exponent.toNat
  else Float.ofScientific digits true (-exponent).toNat

example : displayed.text 0.1 = "0.1" := by decide +kernel
example : displayed.text 1e16 = "1e16" := by decide +kernel
example : stored.text 1.5e16 = "1.5e+16" := by decide +kernel
example : displayed.text 123456.75 = "123456.75" := by decide +kernel
example : displayed.text 1e-5 = "1e-5" := by decide +kernel
example : stored.text 1e-5 = "0.00001" := by decide +kernel
example : stored.text 1e-6 = "1e-6" := by decide +kernel
example : displayed.text (-0.0) = "-0.0" := by decide +kernel

end EntityBase.Decimal
