/-!
# Character sets — code points as ranges

A set of code points is the list of its ranges, in order and as long as
they can be, so that two equal sets are the same list. `CharSet.contains`
says what belongs to a set, and the set operations run over the ranges.

Between U+D7FF and U+E000 there are no characters, and so these two follow
each other. Ranges that meet there are not joined.
-/

namespace EntityBase

/-- The code points from `first` to `last`. -/
structure CodeRange where
  first : Nat
  last : Nat
deriving DecidableEq, Repr, Inhabited

/-- A set of code points. -/
structure CharSet where
  ranges : List CodeRange
deriving DecidableEq, Repr, Inhabited

/-- Whether a code point belongs to the range. -/
def CodeRange.contains (r : CodeRange) (n : Nat) : Bool := r.first ≤ n && n ≤ r.last

namespace CharSet

/-- Whether a code point belongs to the set. -/
def containsCode (s : CharSet) (n : Nat) : Bool := s.ranges.any fun r => r.contains n

/-- Whether a character belongs to the set. -/
def contains (s : CharSet) (c : Char) : Bool := s.containsCode c.toNat

/-- The set without members. -/
def empty : CharSet := ⟨[]⟩

/-- The characters from `a` to `b`. -/
def range (a b : Char) : CharSet := ⟨[⟨a.toNat, b.toNat⟩]⟩

/-- The set of one character. -/
def single (c : Char) : CharSet := range c c

/-- The greatest code point. -/
def top : Nat := 0x10FFFF

/-- Every character. -/
def every : CharSet := ⟨[⟨0, top⟩]⟩

/-- Joins each range to those behind it that it meets. The ranges are given
in the order of their first code points. -/
def joined (r : CodeRange) : List CodeRange → List CodeRange
  | [] => [r]
  | next :: rest =>
    if next.first ≤ r.last + 1 then joined ⟨r.first, max r.last next.last⟩ rest
    else r :: joined next rest

/-- The set of the given ranges, which may be in any order. -/
def ofRanges (ranges : List CodeRange) : CharSet :=
  match ranges.mergeSort fun a b => a.first ≤ b.first with
  | [] => empty
  | r :: rest => ⟨joined r rest⟩

/-- What belongs to one set or the other. -/
def union (a b : CharSet) : CharSet := ofRanges (a.ranges ++ b.ranges)

/-- What belongs to one of the sets. -/
def unionAll (sets : List CharSet) : CharSet := ofRanges (sets.flatMap ranges)

/-- The ranges that two lists of ranges have in common. -/
def common : List CodeRange → List CodeRange → List CodeRange
  | [], _ => []
  | _ :: _, [] => []
  | a :: as, b :: bs =>
    let rest := if a.last < b.last then common as (b :: bs) else common (a :: as) bs
    let first := max a.first b.first
    let last := min a.last b.last
    if first ≤ last then ⟨first, last⟩ :: rest else rest
termination_by as bs => as.length + bs.length

/-- What belongs to both sets. -/
def intersection (a b : CharSet) : CharSet := ⟨common a.ranges b.ranges⟩

/-- The code point that follows. -/
def codeAfter (n : Nat) : Nat := if n = 0xD7FF then 0xE000 else n + 1

/-- The code point that precedes. -/
def codeBefore (n : Nat) : Nat := if n = 0xE000 then 0xD7FF else n - 1

/-- The gaps between ranges, from the code point `next` on. Where two ranges
meet between U+D7FF and U+E000, these two count as the gap. -/
def gaps (next : Nat) : List CodeRange → List CodeRange
  | [] => if next ≤ top then [⟨next, top⟩] else []
  | r :: rest =>
    if r.first = 0 then gaps (codeAfter r.last) rest
    else
      let last := codeBefore r.first
      ⟨min next last, max next last⟩ :: gaps (codeAfter r.last) rest

/-- What does not belong to the set. -/
def complement (s : CharSet) : CharSet := ⟨gaps 0 s.ranges⟩

/-- What is left of ranges when others are taken out. -/
def remainder : List CodeRange → List CodeRange → List CodeRange
  | [], _ => []
  | a :: as, [] => a :: as
  | a :: as, b :: bs =>
    if b.last < a.first then remainder (a :: as) bs
    else if a.last < b.first then a :: remainder as (b :: bs)
    else
      (if a.first < b.first then [⟨a.first, codeBefore b.first⟩] else []) ++
        (if b.last < a.last then remainder (⟨codeAfter b.last, a.last⟩ :: as) bs
        else remainder as (b :: bs))
termination_by as bs => as.length + bs.length

/-- What belongs to the first set and not to the second. -/
def difference (a b : CharSet) : CharSet := ⟨remainder a.ranges b.ranges⟩

/-- What belongs to one of the sets alone. -/
def symmetric (a b : CharSet) : CharSet := (a.union b).difference (a.intersection b)

/-- The set, or its complement. -/
def complementIf (negated : Bool) (s : CharSet) : CharSet := if negated then s.complement else s

/-- The set with every code point moved. -/
def moved (distance : Int) (s : CharSet) : CharSet :=
  ⟨s.ranges.map fun r => ⟨(r.first + distance).toNat, (r.last + distance).toNat⟩⟩

/-- Whether all members are ASCII characters. -/
def isAscii (s : CharSet) : Bool := s.ranges.all fun r => r.last < 128

/-- The only member, if there is one alone. -/
def only? (s : CharSet) : Option Char :=
  match s.ranges with
  | [r] => if r.first = r.last then some (Char.ofNat r.first) else none
  | _ => none

end CharSet

end EntityBase
