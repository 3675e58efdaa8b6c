/-!
# Cursors — a place in an outline and the text behind it

Settings are written as outlines in YAML. A line of one ends at a line
feed, a carriage return, both in this order, a next-line character, or a
line or paragraph separator. A cursor holds what is left of a text, and
where that starts: the characters in front of it, and its line and column.
A cursor that moves on only drops characters (`length_rest_next_le`,
`length_rest_nextLine_le`).
-/

namespace EntityBase.Yaml

/-- Whether a character ends a line. -/
def isBreak (c : Char) : Bool :=
  c == '\n' || c == '\r' || c == '\u0085' || c == '\u2028' || c == '\u2029'

/-- Whether a character parts things in a line. -/
def isBlank (c : Char) : Bool := c == ' ' || c == '\t'

/-- Whether a text starts with white space, or has ended. -/
def atGap : List Char → Bool
  | [] => true
  | c :: _ => isBlank c || isBreak c

/-- What stands for a line break in a scalar: a line feed, but the
separators stand for themselves. -/
def breakText (c : Char) : Char :=
  if c == '\u2028' || c == '\u2029' then c else '\n'

/-- Whether a character may stand in a text at all. -/
def isAllowed (c : Char) : Bool :=
  let n := c.toNat
  n == 9 || n == 10 || n == 13 || (0x20 ≤ n && n ≤ 0x7E) || n == 0x85 ||
    (0xA0 ≤ n && n ≤ 0xD7FF) || (0xE000 ≤ n && n ≤ 0xFFFD) || 0x10000 ≤ n

/-- Whether a character may stand in the name of an anchor, of a handle and
of a directive. -/
def isNameChar (c : Char) : Bool := c.isAlphanum || c == '_' || c == '-'

/-- A place in a text. -/
structure Cursor where
  /-- the text from here on -/
  rest : List Char
  /-- how many characters come before -/
  index : Nat := 0
  line : Nat := 0
  column : Nat := 0
deriving Repr

namespace Cursor

/-- Behind `n` characters of a line. -/
def skip (n : Nat) (c : Cursor) : Cursor :=
  { c with rest := c.rest.drop n, index := c.index + n, column := c.column + n }

/-- Behind one character of a line. -/
def next (c : Cursor) : Cursor := c.skip 1

/-- Behind a line break. -/
def nextLine (c : Cursor) : Cursor :=
  match c.rest with
  | '\r' :: '\n' :: rest => ⟨rest, c.index + 2, c.line + 1, 0⟩
  | text => ⟨text.drop 1, c.index + 1, c.line + 1, 0⟩

/-- Behind the characters of a line that have a property. -/
def skipWhile (p : Char → Bool) (c : Cursor) : Cursor :=
  c.skip (c.rest.takeWhile p).length

/-- Where `rest`, the end of a line, starts. -/
def upTo (rest : List Char) (c : Cursor) : Cursor :=
  c.skip (c.rest.length - rest.length)

/-- Behind blanks and a comment, at the end of a line or of the text, which
may come with its break. -/
def endLine? (c : Cursor) : Option Cursor :=
  let c := c.skipWhile isBlank
  let c := match c.rest with
    | '#' :: _ => c.skipWhile fun x => !isBreak x
    | _ => c
  match c.rest with
  | [] => some c
  | x :: _ => if isBreak x then some c.nextLine else none

/-- Whether a line starts here with three times the given character and
nothing behind it. -/
def atMark (mark : Char) (c : Cursor) : Bool :=
  match c.rest with
  | x :: y :: z :: rest => c.column == 0 && x == mark && y == mark && z == mark && atGap rest
  | _ => false

/-- Whether a document starts or ends here. -/
def atDocumentMark (c : Cursor) : Bool := c.atMark '-' || c.atMark '.'

theorem length_rest_next_le (c : Cursor) : c.next.rest.length ≤ c.rest.length - 1 := by
  simp [next, skip]

theorem length_rest_nextLine_le (c : Cursor) : c.nextLine.rest.length ≤ c.rest.length - 1 := by
  unfold nextLine
  split
  · next h => simp [h]
  · simp

end Cursor

end EntityBase.Yaml
