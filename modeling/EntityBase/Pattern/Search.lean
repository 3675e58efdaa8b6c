import EntityBase.Pattern.Node

/-!
# Search — whether some part of a text matches

A pattern is run on a text by moving **marks** through it. A mark stands on
each place of the pattern that has just taken a character; `Marked.step`
moves all of them over the next one, and a new match may begin at every
position. Some part of the text matches when a mark arrives at the end of
the pattern, or when the pattern can match nothing at all at some position.

For this, repetitions are written out. A match in a text of `n` characters
takes fewer than `n + 1` of them forward, and the others stay where they
are; so more than `n + 1` copies say no more than `n + 1` do.
-/

namespace EntityBase.Pattern

/-- A letter, a digit or an underscore of ASCII. -/
def isAsciiWordChar (c : Char) : Bool := c.isAlphanum || c == '_'

/-- Whether there is a word character at one side of a position. -/
def isWordAt (ascii : Bool) : Option Char → Bool
  | some c => if ascii then isAsciiWordChar c else Text.wordChars.contains c
  | none => false

/-- Whether a condition holds between two characters, if there are any. -/
def Look.holds (before after : Option Char) : Look → Bool
  | .textStart => before.isNone
  | .textEnd => after.isNone
  | .lineStart => before.isNone || before == some '\n'
  | .lineEnd => after.isNone || after == some '\n'
  | .returnLineStart =>
    before.isNone || before == some '\n' || (before == some '\r' && after != some '\n')
  | .returnLineEnd =>
    after.isNone || after == some '\r' || (after == some '\n' && before != some '\r')
  | .wordBoundary ascii => isWordAt ascii before != isWordAt ascii after
  | .noWordBoundary ascii => isWordAt ascii before == isWordAt ascii after
  | .wordStart ascii => !isWordAt ascii before && isWordAt ascii after
  | .wordEnd ascii => isWordAt ascii before && !isWordAt ascii after
  | .wordStartHalf ascii => !isWordAt ascii before
  | .wordEndHalf ascii => !isWordAt ascii after

/-- A pattern with marks on the places that have just taken a character. -/
inductive Marked where
  | empty
  | take (s : CharSet) (marked : Bool)
  | look (l : Look)
  | sequence (p q : Marked)
  | choice (p q : Marked)
  /-- once or more often -/
  | often (p : Marked)
deriving Repr, Inhabited

namespace Marked

/-- A number of copies, and what follows. -/
def copies (p : Marked) : Nat → Marked → Marked
  | 0, rest => rest
  | n + 1, rest => .sequence p (copies p n rest)

/-- At most a number of copies. -/
def upTo (p : Marked) : Nat → Marked
  | 0 => .empty
  | n + 1 => .choice .empty (.sequence p (upTo p n))

/-- A pattern without marks, its repetitions written out up to `limit`
copies. -/
def ofNode (limit : Nat) : Node → Marked
  | .empty => .empty
  | .literal text => text.foldr (fun c p => .sequence (.take (.single c) false) p) .empty
  | .class _ s => .take s false
  | .look l => .look l
  | .repeated p least most _ =>
    let body := ofNode limit p
    let least := min least limit
    match most with
    | some n => copies body least (upTo body (min n limit - least))
    | none =>
      if least = 0 then .choice .empty (.often body) else copies body (least - 1) (.often body)
  | .capture _ p => ofNode limit p
  | .sequence p q => .sequence (ofNode limit p) (ofNode limit q)
  | .choice p q => .choice (ofNode limit p) (ofNode limit q)

/-- Whether the pattern matches nothing at all between two characters. -/
def isSkipped (before after : Option Char) : Marked → Bool
  | .empty => true
  | .take .. => false
  | .look l => l.holds before after
  | .sequence p q => p.isSkipped before after && q.isSkipped before after
  | .choice p q => p.isSkipped before after || q.isSkipped before after
  | .often p => p.isSkipped before after

/-- Whether a mark has arrived at the end, between two characters. -/
def arrives (before after : Option Char) : Marked → Bool
  | .empty | .look _ => false
  | .take _ marked => marked
  | .sequence p q =>
    q.arrives before after || (p.arrives before after && q.isSkipped before after)
  | .choice p q => p.arrives before after || q.arrives before after
  | .often p => p.arrives before after

/-- Moves the marks over the character `c`; `entered` says whether a match
of the pattern may begin in front of it. -/
def step (before : Option Char) (c : Char) (entered : Bool) : Marked → Marked
  | .empty => .empty
  | .take s _ => .take s (entered && s.contains c)
  | .look l => .look l
  | .sequence p q =>
    let passed := p.arrives before (some c) || (entered && p.isSkipped before (some c))
    .sequence (step before c entered p) (step before c passed q)
  | .choice p q => .choice (step before c entered p) (step before c entered q)
  | .often p => .often (step before c (entered || p.arrives before (some c)) p)

/-- Whether a match ends in the rest of a text, or one begins there. -/
def search (p : Marked) (before : Option Char) : List Char → Bool
  | [] => p.isSkipped before none || p.arrives before none
  | c :: rest =>
    p.isSkipped before (some c) || p.arrives before (some c) ||
      search (p.step before c true) (some c) rest

end Marked

/-- Whether some part of a text matches. -/
def Node.isMatch (p : Node) (text : List Char) : Bool :=
  (Marked.ofNode (text.length + 1) p).search none text

end EntityBase.Pattern
