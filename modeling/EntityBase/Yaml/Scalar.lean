import EntityBase.Yaml.Cursor

/-!
# Scalars — texts within an outline

A scalar is written plainly, between quotes, or as a block behind `|` or
`>`. A plain or quoted one may go on over several lines: blanks around a
break are dropped, one break is a space, and of several all but the first
stay. A block goes on as long as its lines are far enough in; `|` keeps its
breaks, `>` joins lines that do not start with a blank.

Every reader here returns the text and the cursor behind it. Its first
argument is fuel; every step takes a character, so the length of the text is
enough.
-/

namespace EntityBase.Yaml

/-- How a scalar is written. -/
inductive Style where
  | plain
  | quoted
  | literal
  | folded
deriving DecidableEq, Repr

/-- White space within a scalar. -/
structure Gap where
  /-- the blanks, last one first, while there is no break -/
  blanks : List Char := []
  /-- whether a line ends in it -/
  broken : Bool := false
  /-- the first break, unless a backslash hides it -/
  first : Option Char := none
  /-- the breaks behind it, last one first -/
  further : List Char := []

namespace Gap

/-- Whether there is no white space. -/
def isEmpty (g : Gap) : Bool := !g.broken && g.blanks.isEmpty

/-- What a gap stands for, last character first. -/
def text (g : Gap) : List Char :=
  if g.broken then
    match g.first with
    | some '\n' => if g.further.isEmpty then [' '] else g.further
    | first => g.further ++ first.toList
  else g.blanks

/-- A gap with one more break. -/
def addBreak (c : Char) (g : Gap) : Gap :=
  if g.broken then { g with further := breakText c :: g.further }
  else { g with broken := true, first := some (breakText c) }

/-- Goes on with a gap. A tab in front of column `limit` of a new line is
refused. -/
def extend? (limit : Nat) : Nat → Gap → Cursor → Option (Gap × Cursor)
  | 0, _, _ => none
  | fuel + 1, g, c =>
    match c.rest with
    | [] => some (g, c)
    | x :: _ =>
      if isBreak x then extend? limit fuel (g.addBreak x) c.nextLine
      else if !isBlank x then some (g, c)
      else if !g.broken then extend? limit fuel { g with blanks := x :: g.blanks } c.next
      else if x == '\t' && c.column < limit then none
      else extend? limit fuel g c.next

end Gap

/-- Whether a character parts things inside brackets. -/
def isFlowMark (c : Char) : Bool :=
  c == ',' || c == '[' || c == ']' || c == '\x7b' || c == '\x7d'

/-- Whether a plain scalar ends in front of a text that is no gap. -/
def endsPlain (inFlow : Bool) : List Char → Bool
  | [] => true
  | c :: rest => (c == ':' && atGap rest) || (inFlow && isFlowMark c)

/-- Whether a colon inside brackets stands where it means nothing. -/
def hasStrayColon : List Char → Bool
  | ':' :: c :: _ => c == '?' || isFlowMark c
  | _ => false

/-- Goes on with a plain scalar, whose lines outside brackets start in
column `limit` or behind it: its text, last character first, and the gap
behind it. -/
def plainFrom? (inFlow : Bool) (limit : Nat) :
    Nat → List Char → Gap → Cursor → Option (List Char × Gap × Cursor)
  | 0, _, _, _ => none
  | fuel + 1, soFar, g, c =>
    match c.rest with
    | [] => some (soFar, g, c)
    | x :: _ =>
      if isBlank x || isBreak x then
        match g.extend? limit (fuel + 1) c with
        | none => none
        | some (g, c) =>
          if !inFlow && c.column < limit then some (soFar, g, c)
          else plainFrom? inFlow limit fuel soFar g c
      else if c.atDocumentMark || (!g.isEmpty && x == '#') then some (soFar, g, c)
      else if inFlow && hasStrayColon c.rest then none
      else if endsPlain inFlow c.rest then some (soFar, g, c)
      else plainFrom? inFlow limit fuel (x :: g.text ++ soFar) {} c.next

/-- A plain scalar, and whether a line break follows it. -/
def plain? (inFlow : Bool) (limit fuel : Nat) (c : Cursor) : Option (List Char × Bool × Cursor) :=
  (plainFrom? inFlow limit fuel [] {} c).map fun (text, g, c) => (text.reverse, g.broken, c)

/-- Reads a text between single quotes, the quote written twice, from behind
the opening one. The text so far is reversed. -/
def singleQuoted? : Nat → List Char → Cursor → Option (List Char × Cursor)
  | 0, _, _ => none
  | fuel + 1, soFar, c =>
    if c.atDocumentMark then none
    else
      match c.rest with
      | [] => none
      | '\'' :: '\'' :: _ => singleQuoted? fuel ('\'' :: soFar) (c.skip 2)
      | '\'' :: _ => some (soFar.reverse, c.next)
      | x :: _ =>
        if isBlank x || isBreak x then
          match Gap.extend? 0 (fuel + 1) {} c with
          | none => none
          | some (g, c) => singleQuoted? fuel (g.text ++ soFar) c
        else singleQuoted? fuel (x :: soFar) c.next

/-- What a character behind a backslash stands for. -/
def escape? : Char → Option Char
  | '0' => some '\x00'
  | 'a' => some '\x07'
  | 'b' => some '\x08'
  | 't' | '\t' => some '\t'
  | 'n' => some '\n'
  | 'v' => some '\x0b'
  | 'f' => some '\x0c'
  | 'r' => some '\r'
  | 'e' => some '\x1b'
  | ' ' => some ' '
  | '"' => some '"'
  | '/' => some '/'
  | '\\' => some '\\'
  | 'N' => some '\u0085'
  | '_' => some '\u00a0'
  | 'L' => some '\u2028'
  | 'P' => some '\u2029'
  | _ => none

/-- The value of a hexadecimal digit. -/
def hexDigit? (c : Char) : Option Nat :=
  if c.isDigit then some (c.toNat - 48)
  else if 'a' ≤ c ∧ c ≤ 'f' then some (c.toNat - 87)
  else if 'A' ≤ c ∧ c ≤ 'F' then some (c.toNat - 55)
  else none

/-- The character with the given hexadecimal number. -/
def coded? (digits : List Char) : Option Char := do
  let n ← digits.foldlM (fun n c => (hexDigit? c).map (16 * n + ·)) 0
  if n.isValidChar then some (Char.ofNat n) else none

/-- The number of hexadecimal digits that a letter behind a backslash asks
for. -/
def codeLength? : Char → Option Nat
  | 'x' => some 2
  | 'u' => some 4
  | 'U' => some 8
  | _ => none

/-- What stands behind a backslash within a line: the character meant and
the number of characters that say it. -/
def escaped? : List Char → Option (Char × Nat)
  | [] => none
  | x :: rest =>
    match codeLength? x with
    | none => (escape? x).map fun y => (y, 1)
    | some n => if rest.length < n then none else (coded? (rest.take n)).map fun y => (y, n + 1)

/-- Reads a text between double quotes from behind the opening one. A
backslash hides a line break. -/
def doubleQuoted? : Nat → List Char → Cursor → Option (List Char × Cursor)
  | 0, _, _ => none
  | fuel + 1, soFar, c =>
    if c.atDocumentMark then none
    else
      match c.rest with
      | [] => none
      | '"' :: _ => some (soFar.reverse, c.next)
      | '\\' :: rest =>
        if rest.head?.any isBreak then
          match Gap.extend? 0 (fuel + 1) { broken := true } c.next.nextLine with
          | none => none
          | some (g, c) => doubleQuoted? fuel (g.text ++ soFar) c
        else
          match escaped? rest with
          | none => none
          | some (y, n) => doubleQuoted? fuel (y :: soFar) (c.skip (n + 1))
      | x :: _ =>
        if isBlank x || isBreak x then
          match Gap.extend? 0 (fuel + 1) {} c with
          | none => none
          | some (g, c) => doubleQuoted? fuel (g.text ++ soFar) c
        else doubleQuoted? fuel (x :: soFar) c.next

/-- What becomes of the breaks behind a block. -/
inductive Chomping where
  /-- all are dropped -/
  | strip
  /-- the last line keeps its own -/
  | clip
  /-- all stay -/
  | keep
deriving DecidableEq, Repr

/-- What the line says that opens a block: how its end is treated, and how
much further in than its surroundings it stands. -/
structure BlockHeader where
  chomping : Chomping := .clip
  indentation : Option Nat := none

namespace BlockHeader

/-- A sign of a header. -/
def sign? : Char → Option Chomping
  | '+' => some .keep
  | '-' => some .strip
  | _ => none

/-- Reads a header from behind the `|` or `>`: a sign and a digit that is
not zero, in any order, and either may be missing. -/
def read? (c : Cursor) : Option (BlockHeader × Cursor) :=
  match c.rest with
  | [] => some ({}, c)
  | x :: rest =>
    match sign? x with
    | some chomping =>
      match rest with
      | '0' :: _ => none
      | y :: _ =>
        if y.isDigit then some (⟨chomping, some (y.toNat - 48)⟩, c.skip 2)
        else some (⟨chomping, none⟩, c.next)
      | [] => some (⟨chomping, none⟩, c.next)
    | none =>
      if x == '0' then none
      else if x.isDigit then
        match rest.head?.bind sign? with
        | some chomping => some (⟨chomping, some (x.toNat - 48)⟩, c.skip 2)
        | none => some (⟨.clip, some (x.toNat - 48)⟩, c.next)
      else some ({}, c)

end BlockHeader

/-- Empty lines in a block whose lines start in column `indent`, or in a
column that is still to be found: their breaks, last one first, the furthest
column reached, and the cursor at the first line that is not empty. A tab
in front of that column is refused. -/
def emptyLines? (indent : Option Nat) :
    Nat → List Char → Nat → Cursor → Option (List Char × Nat × Cursor)
  | 0, _, _, _ => none
  | fuel + 1, breaks, furthest, c =>
    let isBefore (column : Nat) : Bool := indent.all (column < ·)
    let spaces := (c.rest.takeWhile (· == ' ')).length
    let c := c.skip (match indent with
      | some n => min spaces (n - c.column)
      | none => spaces)
    let furthest := max furthest c.column
    match c.rest with
    | [] => some (breaks, furthest, c)
    | x :: _ =>
      if x == '\t' && isBefore c.column then none
      else if isBreak x then emptyLines? indent fuel (breakText x :: breaks) furthest c.nextLine
      else some (breaks, furthest, c)

/-- A block as far as it has been read: its text, the break behind its last
line and those of the empty lines that follow, all reversed, and whether the
last line starts with a blank. -/
structure Block where
  text : List Char := []
  last : Option Char := none
  empty : List Char := []
  startsBlank : Bool := false

namespace Block

/-- A block and the lines that follow it: between two lines that do not
start with a blank, a folded block has a space for a single line feed, and
no first line feed for several. -/
def addLine (folds : Bool) (line : List Char) (b : Block) : Block :=
  let startsBlank := line.head?.any isBlank
  let joint :=
    if folds && b.last == some '\n' && !b.startsBlank && !startsBlank then
      if b.empty.isEmpty then [' '] else b.empty
    else b.empty ++ b.last.toList
  { text := line.reverse ++ joint ++ b.text, startsBlank }

/-- The text of a block. -/
def finish (chomping : Chomping) (b : Block) : List Char :=
  let ending := match chomping with
    | .strip => []
    | .clip => b.last.toList
    | .keep => b.empty ++ b.last.toList
  (ending ++ b.text).reverse

/-- Goes on with a block whose lines start in column `indent`. -/
def extend? (folds : Bool) (indent : Nat) : Nat → Block → Cursor → Option (Block × Cursor)
  | 0, _, _ => none
  | fuel + 1, b, c =>
    match c.rest with
    | [] => some (b, c)
    | _ =>
      if c.column ≠ indent then some (b, c)
      else
        let line := c.rest.takeWhile fun x => !isBreak x
        let behind := c.skip line.length
        let b := b.addLine folds line
        match behind.rest with
        | [] => some (b, behind)
        | x :: _ =>
          match emptyLines? (some indent) (fuel + 1) [] 0 behind.nextLine with
          | none => none
          | some (empty, _, c) =>
            extend? folds indent fuel { b with last := some (breakText x), empty } c

end Block

/-- Reads a block from behind the `|` or `>`. It stands in what starts in
column `limit - 1`, where zero stands for a whole document. -/
def block? (folds : Bool) (limit fuel : Nat) (c : Cursor) : Option (List Char × Cursor) := do
  let (header, c) ← BlockHeader.read? c
  let c ← c.endLine?
  let given := header.indentation.map ((limit - 1) + ·)
  let (empty, furthest, c) ← emptyLines? given (fuel + 1) [] 0 c
  let indent := given.getD (max furthest (max limit 1))
  let (b, c) ← Block.extend? folds indent fuel { empty } c
  return (b.finish header.chomping, c)

end EntityBase.Yaml
