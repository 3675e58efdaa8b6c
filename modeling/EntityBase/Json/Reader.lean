import EntityBase.Json.Pointer

/-!
# Reading data — from text to stored values

The reader accepts the usual grammar of data text. A number without point
and exponent is whole when it has 64 bits, signed or unsigned; `-0` and
all other numbers are doubles. A double is read as it is **scaled**: its
leading digits, as many as 64 bits hold, make a double that is multiplied
or divided by a power of ten, so a long text may come out one step beside
the nearest double.

Nesting is bounded by the length of the text, which is the fuel.
-/

namespace EntityBase.Json

/-- The digits of a number, as far as 64 bits hold them. -/
structure Significand where
  value : Nat
  /-- digits past the point that were taken, less those before it that were not -/
  scale : Nat × Nat
  /-- whether some digit was dropped -/
  full : Bool

/-- Takes one digit; once the significand is full, a digit before the point
only scales and one after it is dropped. -/
def Significand.push (afterPoint : Bool) (s : Significand) (c : Char) : Significand :=
  let value := 10 * s.value + (c.toNat - '0'.toNat)
  if s.full || 18446744073709551615 < value then
    { s with full := true, scale := if afterPoint then s.scale else (s.scale.1, s.scale.2 + 1) }
  else
    { s with value, scale := if afterPoint then (s.scale.1 + 1, s.scale.2) else s.scale }

/-- A power of ten among the doubles. -/
def tenTo (n : Nat) : Float := Float.ofScientific 1 false n

/-- A double scaled by a power of ten. Each division takes away at most `308`
powers, so the fuel counts them. -/
def scaleDown : Nat → Float → Nat → Float
  | 0, f, _ => f
  | fuel + 1, f, n =>
    if n ≤ 308 then f / tenTo n
    else if f == 0.0 then f
    else scaleDown fuel (f / tenTo 308) (n - 308)

/-- `value * 10 ^ exponent`, scaled; nothing when it is out of range. -/
def scaled? (value : Nat) (exponent : Int) : Option Float :=
  let f := Float.ofNat value
  if exponent < 0 then some (scaleDown 8 f (-exponent).toNat)
  else if 308 < exponent then if f == 0.0 then some f else none
  else
    let g := f * tenTo exponent.toNat
    if Binary64.isFinite g then some g else none

/-- The longest run of digits in front, and the rest. -/
def digitsOf (text : List Char) : List Char × List Char := text.span Char.isDigit

/-- An optional fraction: the digits after a point. -/
def fraction? : List Char → Option (List Char × List Char)
  | '.' :: rest =>
    let (digits, rest) := digitsOf rest
    if digits.isEmpty then none else some (digits, rest)
  | rest => some ([], rest)

/-- An optional exponent. -/
def exponent? (text : List Char) : Option (Option Int × List Char) :=
  match text with
  | c :: rest =>
    if c = 'e' ∨ c = 'E' then
      let (negative, rest) := match rest with
        | '-' :: r => (true, r)
        | '+' :: r => (false, r)
        | r => (false, r)
      let (digits, rest) := digitsOf rest
      (digitsValue? digits).map fun n => (some (if negative then -(n : Int) else n), rest)
    else some (none, text)
  | [] => some (none, text)

/-- Reads a number without its sign. -/
def unsignedNumber? (negative : Bool) (text : List Char) : Option (Json × List Char) := do
  let (whole, rest) := digitsOf text
  let value ← digitsValue? whole
  if whole.length > 1 ∧ whole.head? = some '0' then none
  let (afterPoint, rest') ← fraction? rest
  let (exponent, rest'') ← exponent? rest'
  let whole64 := if negative then value ≤ 9223372036854775808 ∧ value ≠ 0 else value ≤ 18446744073709551615
  if afterPoint.isEmpty ∧ exponent.isNone ∧ whole64 then
    return (.int (if negative then -(value : Int) else value), rest'')
  let s := whole.foldl (Significand.push false) ⟨0, (0, 0), false⟩
  let s := afterPoint.foldl (Significand.push true) s
  let x ← scaled? s.value (exponent.getD 0 - s.scale.1 + s.scale.2)
  return (.float (if negative then -x else x), rest'')

/-- Reads a number. -/
def number? : List Char → Option (Json × List Char)
  | '-' :: rest => unsignedNumber? true rest
  | text => unsignedNumber? false text

/-- Characters that may stand between the parts of a value. -/
def isBlank (c : Char) : Bool := c = ' ' || c = '\n' || c = '\r' || c = '\t'

/-- Drops the blanks in front. -/
def skipBlanks (text : List Char) : List Char := text.dropWhile isBlank

mutual

/-- Reads one value at most `fuel` deep. -/
def read? : Nat → List Char → Option (Json × List Char)
  | 0, _ => none
  | fuel + 1, text =>
    match skipBlanks text with
    | 'n' :: 'u' :: 'l' :: 'l' :: rest => some (.null, rest)
    | 't' :: 'r' :: 'u' :: 'e' :: rest => some (.bool true, rest)
    | 'f' :: 'a' :: 'l' :: 's' :: 'e' :: rest => some (.bool false, rest)
    | '"' :: rest => (Text.Quoted.decodeChars rest).map fun r => (.string (String.ofList r.1), r.2)
    | '[' :: rest =>
      match skipBlanks rest with
      | ']' :: rest => some (.array [], rest)
      | rest => (readItems? fuel rest).map fun r => (.array r.1, r.2)
    | '\x7b' :: rest =>
      match skipBlanks rest with
      | '\x7d' :: rest => some (.object [], rest)
      | rest => (readFields? fuel rest).map fun r => (.object (Entries.ofList r.1), r.2)
    | rest => number? rest

/-- Reads items up to the closing bracket. -/
def readItems? : Nat → List Char → Option (List Json × List Char)
  | 0, _ => none
  | fuel + 1, text =>
    match read? fuel text with
    | none => none
    | some (item, rest) =>
      match skipBlanks rest with
      | ',' :: rest => (readItems? fuel rest).map fun r => (item :: r.1, r.2)
      | ']' :: rest => some ([item], rest)
      | _ => none

/-- Reads fields up to the closing brace. -/
def readFields? : Nat → List Char → Option (List (String × Json) × List Char)
  | 0, _ => none
  | fuel + 1, text =>
    match skipBlanks text with
    | '"' :: rest =>
      match Text.Quoted.decodeChars rest with
      | none => none
      | some (key, rest) =>
        match skipBlanks rest with
        | ':' :: rest =>
          match read? fuel rest with
          | none => none
          | some (value, rest) =>
            match skipBlanks rest with
            | ',' :: rest =>
              (readFields? fuel rest).map fun r => ((String.ofList key, value) :: r.1, r.2)
            | '\x7d' :: rest => some ([(String.ofList key, value)], rest)
            | _ => none
        | _ => none
    | _ => none

end

/-- Reads a text that holds one value and nothing else. -/
def parse? (text : String) : Option Json :=
  let chars := text.toList
  match read? (2 * chars.length + 2) chars with
  | some (value, rest) => if (skipBlanks rest).isEmpty then some value else none
  | none => none

end EntityBase.Json
