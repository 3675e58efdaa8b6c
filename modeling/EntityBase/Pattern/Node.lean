import EntityBase.Pattern.Class

/-!
# Nodes — patterns in a plain form

A pattern is built by functions that keep it plain. Literals next to each
other are one, a class of one character is a literal, and sequences and
choices are not nested in their like; `sequence p q` and `choice p q` lean
to the right, and `Node.parts` and `Node.alternatives` list what they
consist of. Alternatives that are all characters or classes become one
class, and a beginning that all alternatives share is taken out.

None of this changes what a pattern matches. It fixes how much room its
automaton takes, and so which patterns are accepted.
-/

namespace EntityBase.Pattern

/-- A condition on the characters on both sides of a position. -/
inductive Look where
  | textStart
  | textEnd
  | lineStart
  | lineEnd
  /-- a line may end in a carriage return as well -/
  | returnLineStart
  | returnLineEnd
  | wordBoundary (ascii : Bool)
  | noWordBoundary (ascii : Bool)
  | wordStart (ascii : Bool)
  | wordEnd (ascii : Bool)
  | wordStartHalf (ascii : Bool)
  | wordEndHalf (ascii : Bool)
deriving DecidableEq, Repr, Inhabited

/-- A pattern. -/
inductive Node where
  | empty
  /-- some characters, at least one -/
  | literal (text : List Char)
  /-- one character of a set; `ascii` tells a class that was read as one of
  ASCII characters from an equal one that was not -/
  | class (ascii : Bool) (s : CharSet)
  | look (l : Look)
  /-- at least `least` times, and at most `most` times if that is given -/
  | repeated (p : Node) (least : Nat) (most : Option Nat) (greedy : Bool)
  | capture (index : Nat) (p : Node)
  | sequence (p q : Node)
  | choice (p q : Node)
deriving DecidableEq, Repr, Inhabited

namespace Node

/-- The pattern that matches nothing. -/
def fail : Node := .class true .empty

/-- One character of a set. -/
def ofSet (ascii : Bool) (s : CharSet) : Node :=
  match s.only? with
  | some c => .literal [c]
  | none => if s.ranges.isEmpty then fail else .class ascii s

/-- What a sequence consists of. -/
def parts : Node → List Node
  | .sequence p q => p :: q.parts
  | p => [p]

/-- What a choice is between. -/
def alternatives : Node → List Node
  | .choice p q => p :: q.alternatives
  | p => [p]

/-- The sequence of parts that need no more work. -/
def ofParts : List Node → Node
  | [] => .empty
  | [p] => p
  | p :: rest => .sequence p (ofParts rest)

/-- The choice between alternatives that need no more work. -/
def ofAlternatives : List Node → Node
  | [] => fail
  | [p] => p
  | p :: rest => .choice p (ofAlternatives rest)

/-- Puts a part in front of others; a literal becomes one with a literal. -/
def consPart : Node → List Node → List Node
  | .empty, rest => rest
  | .literal a, .literal b :: rest => .literal (a ++ b) :: rest
  | p, rest => p :: rest

/-- One pattern after the other. -/
def concat (ps : List Node) : Node := ofParts ((ps.flatMap parts).foldr consPart [])

/-- Whether every match is empty. -/
def isZeroWidth : Node → Bool
  | .empty | .look _ => true
  | .literal _ | .class .. => false
  | .repeated p _ most _ => most.isSome && p.isZeroWidth
  | .capture _ p => p.isZeroWidth
  | .sequence p q | .choice p q => p.isZeroWidth && q.isZeroWidth

/-- A pattern a number of times. Of empty matches, one is as good as many. -/
def repeat_ (p : Node) (least : Nat) (most : Option Nat) (greedy : Bool) : Node :=
  let (least, most) := if p.isZeroWidth then (min least 1, some (min (most.getD 1) 1)) else (least, most)
  match least, most with
  | 0, some 0 => .empty
  | 1, some 1 => p
  | least, most => .repeated p least most greedy

/-- The character of a literal of one character. -/
def character? : Node → Option Char
  | .literal [c] => some c
  | _ => none

/-- The set of a class. -/
def set? : Node → Option CharSet
  | .class _ s => some s
  | _ => none

/-- Alternatives as one class, if they are all characters or all classes. -/
def united? (ps : List Node) : Option Node :=
  ((ps.mapM character?).map fun cs => ofSet false (.unionAll (cs.map .single))).or
    ((ps.mapM set?).map fun sets => ofSet false (.unionAll sets))

/-- A choice that is not a choice between choices. -/
def choose (ps : List Node) : Node :=
  match ps.flatMap alternatives with
  | [] => fail
  | [p] => p
  | ps => (united? ps).getD (ofAlternatives ps)

/-- How many elements two lists have in common at their beginnings. -/
def commonLength : List Node → List Node → Nat
  | a :: as, b :: bs => if a = b then commonLength as bs + 1 else 0
  | _, _ => 0

/-- The number of parts with which all of some sequences begin. -/
def sharedLength : List Node → Nat
  | .sequence p q :: rest =>
    rest.foldl
      (fun n r => match r with
        | .sequence .. => min n (commonLength (Node.sequence p q).parts r.parts)
        | _ => 0)
      (Node.sequence p q).parts.length
  | _ => 0

/-- The choice between patterns. -/
def alternation (ps : List Node) : Node :=
  match ps.flatMap alternatives with
  | [] => fail
  | [p] => p
  | p :: rest =>
    match united? (p :: rest) with
    | some q => q
    | none =>
      let n := sharedLength (p :: rest)
      if n = 0 then ofAlternatives (p :: rest)
      else
        concat (p.parts.take n ++
          [choose ((p :: rest).map fun q => concat (q.parts.drop n))])

/-- The least length of a match, if there is a match at all. -/
def leastLength : Node → Option Nat
  | .empty | .look _ => some 0
  | .literal text => some text.length
  | .class _ s => if s.ranges.isEmpty then none else some 1
  | .repeated p least _ _ => p.leastLength.map (least * ·)
  | .capture _ p => p.leastLength
  | .sequence p q => do return (← p.leastLength) + (← q.leastLength)
  | .choice p q => do return min (← p.leastLength) (← q.leastLength)

/-- Whether every match begins with a look of the given kind. -/
def opensWith (l : Look) : Node → Bool
  | .look m => l == m
  | .empty | .literal _ | .class .. => false
  | .repeated p least _ _ => 0 < least && p.opensWith l
  | .capture _ p => p.opensWith l
  | .sequence p q => p.opensWith l || (p.isZeroWidth && q.opensWith l)
  | .choice p q => p.opensWith l && q.opensWith l

/-- Whether every match ends with a look of the given kind. -/
def closesWith (l : Look) : Node → Bool
  | .look m => l == m
  | .empty | .literal _ | .class .. => false
  | .repeated p least _ _ => 0 < least && p.closesWith l
  | .capture _ p => p.closesWith l
  | .sequence p q => q.closesWith l || (q.isZeroWidth && p.closesWith l)
  | .choice p q => p.closesWith l && q.closesWith l

end Node

end EntityBase.Pattern
