import EntityBase.Json

/-!
# Pointers — paths into stored data

A pointer is empty, or a sequence of segments each behind a slash. A
segment names a field of an object or the position of an item; inside a
segment `~1` stands for a slash and `~0` for a tilde. A position is a
decimal number without a sign and without a leading zero.
-/

namespace EntityBase.Json

/-- The pieces of a text between slashes; there is always at least one. -/
def segments : List Char → List (List Char)
  | [] => [[]]
  | c :: rest =>
    if c = '/' then [] :: segments rest
    else match segments rest with
      | [] => [[c]]
      | s :: more => (c :: s) :: more

/-- A segment with its escapes resolved. -/
def unescapeSegment : List Char → List Char
  | '~' :: '1' :: rest => '/' :: unescapeSegment rest
  | '~' :: '0' :: rest => '~' :: unescapeSegment rest
  | c :: rest => c :: unescapeSegment rest
  | [] => []

/-- The value of a run of decimal digits, nothing for any other text. -/
def digitsValue? (digits : List Char) : Option Nat :=
  if digits.isEmpty || !digits.all Char.isDigit then none
  else some (digits.foldl (fun n c => 10 * n + (c.toNat - '0'.toNat)) 0)

/-- A segment read as the position of an item. -/
def position? (segment : List Char) : Option Nat :=
  match segment with
  | '0' :: _ :: _ => none
  | _ => digitsValue? segment

/-- One step along a segment. -/
def step? (segment : List Char) : Json → Option Json
  | .object fields => Entries.get? (String.ofList (unescapeSegment segment)) fields
  | .array items => (position? (unescapeSegment segment)).bind fun i => items[i]?
  | _ => none

/-- The value at the end of a path of segments. -/
def follow (value : Json) : List (List Char) → Option Json
  | [] => some value
  | segment :: rest => (step? segment value).bind fun next => follow next rest

/-- The value that a pointer names. -/
def pointer? (value : Json) : List Char → Option Json
  | [] => some value
  | '/' :: rest => follow value (segments rest)
  | _ => none

example : pointer? (.object [("a/b", .array [.null, .int 7])]) "/a~1b/1".toList = some (.int 7) := rfl
example : pointer? (.object [("a", .array [.int 7])]) "/a/00".toList = none := rfl

end EntityBase.Json
