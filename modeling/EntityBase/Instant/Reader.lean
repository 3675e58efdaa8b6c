import EntityBase.Instant
import EntityBase.Text.Blank

/-!
# Reading instants

Three forms are read, tried in this order. The **strict** form has fields
of fixed width and a zone: `2021-03-01T10:00:00.5+05:30`, with a `Z` for
UTC and a space allowed in place of the `T`. The **loose** form has no zone
and is taken as UTC; its fields may be short and may have blanks in front,
and its year may have a sign and then any number of digits. A date alone
is the start of its day, loosely written as well.
-/

namespace EntityBase.Instant

/-- Reads a number of at least `least` and at most `most` digits. -/
def digits? (least most : Nat) (s : List Char) : Option (Nat × List Char) :=
  let run := (s.take most).takeWhile Char.isDigit
  if run.length < least then none
  else some (run.foldl (fun n c => 10 * n + (c.toNat - '0'.toNat)) 0, s.drop run.length)

/-- Reads the given character. -/
def char? (c : Char) : List Char → Option (List Char)
  | d :: rest => if d = c then some rest else none
  | [] => none

/-- Reads an optional fraction of a second as nanoseconds; digits past the
ninth are dropped. -/
def fraction? : List Char → Option (Nat × List Char)
  | '.' :: rest =>
    (digits? 1 9 rest).map fun (n, after) =>
      (n * Nat.pow 10 (9 - (rest.length - after.length)), after.dropWhile Char.isDigit)
  | rest => some (0, rest)

/-- Reads a zone as the minutes by which it is ahead of UTC. -/
def zone? : List Char → Option (Int × List Char)
  | [] => none
  | c :: rest =>
    if c = 'Z' ∨ c = 'z' then some (0, rest)
    else do
      let negative ← if c = '+' then some false
        else if c = '-' ∨ c = '−' then some true else none
      let (hours, rest) ← digits? 2 2 rest
      let rest ← char? ':' rest
      let (minutes, rest) ← digits? 2 2 rest
      if hours ≤ 23 ∧ minutes ≤ 59 then
        let total : Int := hours * 60 + minutes
        some (if negative then -total else total, rest)
      else none

/-- Reads the strict form. -/
def strict? (s : List Char) : Option Instant := do
  let (year, s) ← digits? 4 4 s
  let s ← char? '-' s
  let (month, s) ← digits? 2 2 s
  let s ← char? '-' s
  let (day, s) ← digits? 2 2 s
  let s ← match s with
    | c :: rest => if c = 'T' ∨ c = 't' ∨ c = ' ' then some rest else none
    | [] => none
  let (hour, s) ← digits? 2 2 s
  let s ← char? ':' s
  let (minute, s) ← digits? 2 2 s
  let s ← char? ':' s
  let (second, s) ← digits? 2 2 s
  let (nanosecond, s) ← fraction? s
  let (ahead, s) ← zone? s
  if s.isEmpty && isDate year month day && isTime hour minute second then
    some (behind ⟨year, month, day, hour, minute, second, nanosecond⟩ ahead)
  else none

/-- Reads a loosely written year. -/
def looseYear? (s : List Char) : Option (Int × List Char) :=
  match Text.trimStart s with
  | '-' :: rest => (digits? 1 rest.length rest).map fun (n, s) => (-(n : Int), s)
  | '+' :: rest => (digits? 1 rest.length rest).map fun (n, s) => ((n : Int), s)
  | rest => (digits? 1 4 rest).map fun (n, s) => ((n : Int), s)

/-- Reads a loosely written field of at most two digits. -/
def looseField? (s : List Char) : Option (Nat × List Char) := digits? 1 2 (Text.trimStart s)

/-- Reads a loosely written date. -/
def looseDate? (s : List Char) : Option ((Int × Nat × Nat) × List Char) := do
  let (year, s) ← looseYear? s
  let s ← char? '-' s
  let (month, s) ← looseField? s
  let s ← char? '-' s
  let (day, s) ← looseField? s
  if isDate year month day then some ((year, month, day), s) else none

/-- Reads the loose form. -/
def loose? (s : List Char) : Option Instant := do
  let ((year, month, day), s) ← looseDate? s
  let s ← char? 'T' s
  let (hour, s) ← looseField? s
  let s ← char? ':' s
  let (minute, s) ← looseField? s
  let s ← char? ':' s
  let (second, s) ← looseField? s
  let (nanosecond, s) ← fraction? s
  if s.isEmpty && isTime hour minute second then
    some ⟨year, month, day, hour, minute, second, nanosecond⟩
  else none

/-- Reads a date alone. -/
def date? (s : List Char) : Option Instant := do
  let ((year, month, day), s) ← looseDate? s
  if s.isEmpty then some ⟨year, month, day, 0, 0, 0, 0⟩ else none

/-- Reads an instant in any form, blanks around it aside. -/
def parse? (text : String) : Option Instant :=
  let s := Text.trim text.toList
  (strict? s).or ((loose? s).or (date? s))

example : (parse? "2021-03-01T00:30:00+05:30").map millisText = some "2021-02-28T19:00:00.000Z" := by
  decide +kernel
example : (parse? " 21-3-1 ").map millisText = some "0021-03-01T00:00:00.000Z" := by decide +kernel

end EntityBase.Instant
