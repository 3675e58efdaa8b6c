import EntityBase.Pattern.ByteRanges
import EntityBase.Pattern.Node
import Std.Data.HashMap

/-!
# Footprint — the room that the automaton of a pattern takes

A pattern is accepted when its automaton fits into ten mebibytes, read
forward as well as backward. The automaton runs on bytes. Each of its states
takes 32 bytes, a state with several ways on 8 more for each byte range
that it tells apart, and a fork 4 more for each of its branches.

A class beyond ASCII is a small automaton of its own. Forward, its states
are **shared** when they agree in their ways on; backward, when they come
from the same state by the same bytes. What may be shared is kept in a
table with a fixed number of slots, in which a new entry drives out the old
one of its slot, and the slot is found from the numbers of the states. That
is why the states are numbered: `Footprint.states` is also the number of
the next state.
-/

namespace EntityBase.Pattern

/-- The room that is taken so far. -/
structure Footprint where
  states : Nat := 0
  /-- bytes beyond those of the states alone -/
  extra : Nat := 0
deriving DecidableEq, Repr, Inhabited

namespace Footprint

/-- The room in bytes. -/
def bytes (f : Footprint) : Nat := 32 * f.states + f.extra

/-- The most room that is given. -/
def maxBytes : Nat := 10 * 1024 * 1024

/-- Whether the room is enough. -/
def fits (f : Footprint) : Bool := f.bytes ≤ maxBytes

/-- Adds plain states. -/
def plain (n : Nat) (f : Footprint) : Footprint := { f with states := f.states + n }

/-- Adds a state that tells byte ranges apart. -/
def sparse (ranges : Nat) (f : Footprint) : Footprint :=
  { states := f.states + 1, extra := f.extra + 8 * ranges }

/-- Adds a branch to a fork. -/
def branch (n : Nat) (f : Footprint) : Footprint := { f with extra := f.extra + 4 * n }

/-- Adds a fork with branches. -/
def fork (branches : Nat) (f : Footprint) : Footprint := (f.plain 1).branch branches

/-! ## Classes beyond ASCII -/

/-- Takes a number into a hash (FNV-1a). -/
def mix (hash : UInt64) (n : Nat) : UInt64 := (hash ^^^ n.toUInt64) * 1099511628211

/-- Where a hash starts. -/
def hashStart : UInt64 := 14695981039346656037

/-- A way between states: the bytes that open it and the number of the state
at its other end. -/
structure Edge where
  bytes : ByteRange
  target : Nat
deriving DecidableEq, Repr, Inhabited

/-- A state that may still get ways on: those it has, the last one first,
and the bytes of the one that is being built. -/
structure Branch where
  edges : List Edge := []
  growing : Option ByteRange := none
deriving Repr, Inhabited

/-- States that may be shared, by their slots. -/
abbrev Shared := Std.HashMap Nat (List Edge × Nat)

/-- The number of slots for states that are read forward. -/
def forwardSlots : Nat := 10000

/-- The state with the given ways on, shared or new. -/
def share (edges : List Edge) (m : Shared × Footprint) : Nat × Shared × Footprint :=
  let hash := edges.foldl (fun h e => mix (mix (mix h e.bytes.first) e.bytes.last) e.target) hashStart
  let slot := hash.toNat % forwardSlots
  let (known, f) := m
  match known[slot]? with
  | some (same, number) =>
    if same = edges then (number, known, f)
    else (f.states, known.insert slot (edges, f.states), f.sparse edges.length)
  | none => (f.states, known.insert slot (edges, f.states), f.sparse edges.length)

/-- The ways on of a branch, when its growing one leads to a state. -/
def Branch.closed (b : Branch) (target : Nat) : List Edge :=
  match b.growing with
  | some bytes => ⟨bytes, target⟩ :: b.edges
  | none => b.edges

/-- Closes the branches of a path, the last one first, and says which state
the path begins with. `final` is where it leads. -/
def closePath (final : Nat) : List Branch → Shared × Footprint → Nat × Shared × Footprint
  | [], m => (final, m)
  | b :: deeper, m =>
    let (target, m) := closePath final deeper m
    share (b.closed target).reverse m

/-- Adds a sequence to a path. As far as both agree the path stays open;
behind that it is closed. -/
def extend (final : Nat) :
    List ByteRange → List Branch → Shared × Footprint → List Branch × Shared × Footprint
  | [], path, m => (path, m)
  | r :: rest, [], m => ((r :: rest).map fun r => { growing := some r }, m)
  | r :: rest, b :: deeper, m =>
    if b.growing = some r then
      let (deeper, m) := extend final rest deeper m
      (b :: deeper, m)
    else
      let (target, m) := closePath final deeper m
      ({ edges := b.closed target, growing := some r } ::
        rest.map fun r => { growing := some r }, m)

/-- Adds a class that is read forward. -/
def forwardClass (s : CharSet) (f : Footprint) : Footprint :=
  let final := f.states
  let (path, m) := (ByteRange.sequencesOf s).foldl
    (fun (path, m) seq => extend final seq path m)
    ([{}], ({} : Shared), f.plain 1)
  (closePath final path m).2.2

/-- The number of slots for states that are read backward. -/
def backwardSlots : Nat := 1000

/-- States that are read backward, by their slots. -/
abbrev SharedBackward := Std.HashMap Nat (Edge × Nat)

/-- Adds a sequence that is read backward. A state is told by the one it
comes from and by its bytes. -/
def backwardSequence :
    List ByteRange → Nat → SharedBackward × Footprint → SharedBackward × Footprint
  | [], _, m => m
  | r :: rest, source, (known, f) =>
    let edge : Edge := ⟨r, source⟩
    let slot := (mix (mix (mix hashStart source) r.first) r.last).toNat % backwardSlots
    match known[slot]? with
    | some (e, number) =>
      if e = edge then backwardSequence rest number (known, f)
      else backwardSequence rest f.states (known.insert slot (edge, f.states), f.plain 1)
    | none => backwardSequence rest f.states (known.insert slot (edge, f.states), f.plain 1)

/-- Adds a class that is read backward: a fork between its sequences. -/
def backwardClass (s : CharSet) (f : Footprint) : Footprint :=
  let final := f.states + 1
  ((ByteRange.sequencesOf s).foldl
    (fun (known, f) seq => backwardSequence seq final (known, f.branch 1))
    (({} : SharedBackward), f.plain 2)).2

/-- Adds a class. -/
def addClass (backward : Bool) (s : CharSet) (f : Footprint) : Footprint :=
  if s.isAscii then (f.plain 1).sparse s.ranges.length
  else if backward then backwardClass s f
  else forwardClass s f

/-! ## Choices between literals -/

/-- The words of a choice, cut up behind those that are over: `done` holds
the chunks so far and `current` the chunk that is being filled, both
backward. Words that are over at once count only once in front of the first
longer word. -/
def chunksOf (done : List (List (List Nat))) (current : List (List Nat)) :
    List (List Nat) → List (List (List Nat))
  | [] => (current.reverse :: done).reverse
  | [] :: rest =>
    if current.isEmpty && !done.isEmpty && done.all List.isEmpty then chunksOf done current rest
    else chunksOf (current.reverse :: done) [] rest
  | word :: rest => chunksOf done (word :: current) rest

/-- Puts a word to those that begin with the same byte. -/
def addToGroup (byte : Nat) (word : List Nat) :
    List (Nat × List (List Nat)) → List (Nat × List (List Nat))
  | [] => [(byte, [word])]
  | (b, words) :: rest =>
    if b = byte then (b, word :: words) :: rest else (b, words) :: addToGroup byte word rest

/-- What the words of a chunk go on with, for each first byte. -/
def groupsOf (chunk : List (List Nat)) : List (List (List Nat)) :=
  (chunk.foldr (fun word groups => match word with
    | [] => groups
    | byte :: rest => addToGroup byte rest groups) []).map (·.2)

/-- Adds a choice between words that have their beginnings in common. The
fuel is more than the length of the longest word. -/
def addWords : Nat → List (List Nat) → Footprint → Footprint
  | 0, _, f => f
  | fuel + 1, words, f =>
    let chunks := chunksOf [] [] words
    let f := chunks.foldl
      (fun f chunk =>
        if chunk.isEmpty then f
        else
          let groups := groupsOf chunk
          let f := if groups.length = 1 then f.plain 1 else f.sparse groups.length
          groups.foldl
            (fun f rests => if rests.all List.isEmpty then f else addWords fuel rests f) f)
      f
    f.fork ((chunks.filter fun chunk => !chunk.isEmpty).length + chunks.length - 1)

/-! ## Patterns -/

/-- A step a number of times, as long as the room is enough. -/
def times (step : Footprint → Footprint) : Nat → Footprint → Footprint
  | 0, f => f
  | n + 1, f => if f.fits then times step n (step f) else f

/-- Ends an alternative; `rank` counts those in front of it. The fork and
the end of a choice come behind its second alternative. -/
def alternative (rank : Option Nat) (f : Footprint) : Footprint :=
  match rank with
  | none => f
  | some 1 => (f.plain 2).branch 1
  | some _ => f.branch 1

/-- The bytes of a choice between literals. -/
def words? (backward : Bool) (p : Node) : Option (List (List Nat)) :=
  p.alternatives.mapM fun p => match p with
    | .literal text =>
      let bytes := ByteRange.encodeText text
      some (if backward then bytes.reverse else bytes)
    | _ => none

/-- Adds a pattern, which may be an alternative with some others in front of
it. -/
def add (backward : Bool) : Node → Option Nat → Footprint → Footprint
  | .empty, rank, f => alternative rank (f.plain 1)
  | .literal text, rank, f => alternative rank (f.plain (ByteRange.encodeText text).length)
  | .class _ s, rank, f => alternative rank (addClass backward s f)
  | .look _, rank, f => alternative rank (f.plain 1)
  | .repeated p least most _, rank, f =>
    let once := add backward p none
    alternative rank <|
      match least, most with
      | 0, some 1 => ((once (f.plain 1)).plain 1).branch 2
      | 0, none =>
        if 0 < p.leastLength.getD 0 then (once (f.plain 1)).branch 2
        else ((once f).plain 3).branch 4
      | n, none => (times once n f).fork 2
      | n, some m =>
        if n = m then times once n f
        else
          let f := if n = 0 then f.plain 1 else times once n f
          times (fun f => (once (f.plain 1)).branch 2) (m - n) (f.plain 1)
  | .capture _ p, rank, f =>
    alternative rank <|
      if backward then add backward p none f else (add backward p none (f.plain 1)).plain 1
  | .sequence p q, rank, f =>
    alternative rank <|
      if backward then add backward p none (add backward q none f)
      else add backward q none (add backward p none f)
  | .choice p q, rank, f =>
    match rank, words? backward (.choice p q) with
    | none, some words =>
      addWords (words.foldl (fun n w => max n w.length) 0 + 1) words (f.plain 1)
    | rank, _ =>
      let rank := rank.getD 0
      add backward q (some (rank + 1)) (alternative (some rank) (add backward p none f))

/-- The room of the automaton of a pattern. A match may begin anywhere, or
end anywhere when it is read backward, unless the pattern is tied to that
end of the text; forward, the bounds of the match are noted. -/
def ofNode (backward : Bool) (p : Node) : Footprint :=
  let tied := if backward then p.closesWith .textEnd else p.opensWith .textStart
  let f : Footprint := if tied then plain 1 {} else ((plain 2 {}).sparse 1).branch 2
  (if backward then add backward p none f else (add backward p none (f.plain 1)).plain 1).plain 1

end Footprint

/-- Whether the automaton of a pattern fits, forward and backward. -/
def Node.fits (p : Node) : Bool :=
  (Footprint.ofNode false p).fits && (Footprint.ofNode true p).fits

end EntityBase.Pattern
