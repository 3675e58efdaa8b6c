/-!
# Instants — points in time by their calendar fields

An instant is a date and a time of day in UTC, down to the nanosecond. The
fields are kept as such: the order of instants is the lexicographic order
of the fields, and the text of an instant lists them. A second may have
number `60`. The day number, which turns a date into a count of days and
back, is needed only for instants that are given in milliseconds.
-/

namespace EntityBase

/-- A point in time, in UTC. -/
structure Instant where
  year : Int
  month : Nat
  day : Nat
  hour : Nat
  minute : Nat
  second : Nat
  nanosecond : Nat
deriving DecidableEq, Repr, Inhabited

namespace Instant

/-- The greatest year of an instant. -/
def maxYear : Int := 262142

/-- The least year of an instant. -/
def minYear : Int := -262143

/-- Whether a year has a twenty-ninth of February. -/
def isLeapYear (y : Int) : Bool := y % 4 == 0 && (y % 100 != 0 || y % 400 == 0)

/-- The number of days of a month. -/
def daysIn (y : Int) (m : Nat) : Nat :=
  match m with
  | 2 => if isLeapYear y then 29 else 28
  | 4 | 6 | 9 | 11 => 30
  | _ => 31

/-- Whether year, month and day name a date. -/
def isDate (y : Int) (m d : Nat) : Bool :=
  minYear ≤ y && y ≤ maxYear && 1 ≤ m && m ≤ 12 && 1 ≤ d && d ≤ daysIn y m

/-- Whether hour, minute and second name a time of day. -/
def isTime (h m s : Nat) : Bool := h ≤ 23 && m ≤ 59 && s ≤ 60

/-- Compares two instants, the greatest unit first. -/
def order (a b : Instant) : Ordering :=
  (compare a.year b.year).then <|
  (compare a.month b.month).then <|
  (compare a.day b.day).then <|
  (compare a.hour b.hour).then <|
  (compare a.minute b.minute).then <|
  (compare a.second b.second).then <|
  compare a.nanosecond b.nanosecond

/-- The date after this one. -/
def nextDay (t : Instant) : Instant :=
  if t.day < daysIn t.year t.month then { t with day := t.day + 1 }
  else if t.month < 12 then { t with month := t.month + 1, day := 1 }
  else { t with year := t.year + 1, month := 1, day := 1 }

/-- The date before this one. -/
def previousDay (t : Instant) : Instant :=
  if 1 < t.day then { t with day := t.day - 1 }
  else if 1 < t.month then { t with month := t.month - 1, day := daysIn t.year (t.month - 1) }
  else { t with year := t.year - 1, month := 12, day := 31 }

/-- The instant that a clock running ahead of UTC by less than a day shows as
`t`. -/
def behind (t : Instant) (minutes : Int) : Instant :=
  let total : Int := t.hour * 60 + t.minute - minutes
  let moved := if total < 0 then previousDay t else if 1440 ≤ total then nextDay t else t
  { moved with hour := ((total % 1440) / 60).toNat, minute := (total % 60).toNat }

/-- The days from the first of January 1970 to a date. The year is counted
from March, so that the leap day comes last. -/
def dayNumber (y : Int) (m d : Nat) : Int :=
  let y := if m ≤ 2 then y - 1 else y
  let era := y / 400
  let yearOfEra := y % 400
  let dayOfYear : Int := (153 * ((m + 9) % 12) + 2) / 5 + d - 1
  era * 146097 + (yearOfEra * 365 + yearOfEra / 4 - yearOfEra / 100 + dayOfYear) - 719468

/-- The date that lies `n` days after the first of January 1970. -/
def ofDayNumber (n : Int) : Int × Nat × Nat :=
  let z := n + 719468
  let era := z / 146097
  let dayOfEra := z % 146097
  let yearOfEra := (dayOfEra - dayOfEra / 1460 + dayOfEra / 36524 - dayOfEra / 146096) / 365
  let dayOfYear := dayOfEra - (365 * yearOfEra + yearOfEra / 4 - yearOfEra / 100)
  let month := (5 * dayOfYear + 2) / 153
  let day := dayOfYear - (153 * month + 2) / 5 + 1
  let month := if month < 10 then month + 3 else month - 9
  let year := yearOfEra + era * 400
  (if month ≤ 2 then year + 1 else year, month.toNat, day.toNat)

/-- The milliseconds since the start of 1970, fractions cut off. -/
def toMillis (t : Instant) : Int :=
  ((dayNumber t.year t.month t.day * 24 + t.hour) * 60 + t.minute) * 60000
    + t.second * 1000 + (t.nanosecond / 1000000 : Nat)

/-- The instant a number of milliseconds after the start of 1970, if its
year is in range. -/
def ofMillis? (n : Int) : Option Instant :=
  let (year, month, day) := ofDayNumber (n / 86400000)
  let rest := (n % 86400000).toNat
  if minYear ≤ year ∧ year ≤ maxYear then
    some
      { year, month, day
        hour := rest / 3600000
        minute := rest / 60000 % 60
        second := rest / 1000 % 60
        nanosecond := rest % 1000 * 1000000 }
  else none

/-- A number in at least `width` digits. -/
def padded (width n : Nat) : List Char :=
  let digits := Nat.toDigits 10 n
  List.replicate (width - digits.length) '0' ++ digits

/-- A year: four digits, or a sign and at least four of them. -/
def yearChars (y : Int) : List Char :=
  if 0 ≤ y ∧ y ≤ 9999 then padded 4 y.toNat
  else (if y < 0 then '-' else '+') :: padded 4 y.natAbs

/-- The instant as text with the given fraction of a second. -/
def render (t : Instant) (fraction : List Char) : List Char :=
  yearChars t.year ++ '-' :: padded 2 t.month ++ '-' :: padded 2 t.day
    ++ 'T' :: padded 2 t.hour ++ ':' :: padded 2 t.minute ++ ':' :: padded 2 t.second
    ++ '.' :: fraction ++ ['Z']

/-- The text down to the millisecond, fractions of it cut off. -/
def millisText (t : Instant) : String :=
  String.ofList (t.render (padded 3 (t.nanosecond / 1000000)))

/-- The text down to the nanosecond. -/
def nanosText (t : Instant) : String := String.ofList (t.render (padded 9 t.nanosecond))

end Instant

end EntityBase
