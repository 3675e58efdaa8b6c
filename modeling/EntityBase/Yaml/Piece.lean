import EntityBase.Yaml.Tag

/-!
# Pieces — an outline cut up

An outline is cut into pieces: the scalars, the marks that part them, and,
where lines stand further in or further out than before, the starts and ends
of blocks. A key need not be marked: that something was one shows at the
colon behind it. Every scalar, alias or bracket that may be a key is
therefore kept in mind, and at a colon in the same line and not too far
behind, the mark of a key is put in front of it.

Anchors are numbered: a number says how many different names came before,
so that a name which is given again gets a new number, and an alias stands
for the last number of its name.

Fuel is one more than the length of the text, as every step takes a
character.
-/

namespace EntityBase.Yaml

/-- A piece of an outline. -/
inductive Piece where
  /-- the items of a block start -/
  | items
  /-- the fields of a block start -/
  | fields
  /-- a block ends -/
  | closeBlock
  | openList
  | closeList
  | openMap
  | closeMap
  | comma
  | dash
  | key
  | value
  | documentStart
  | documentEnd
  | directive
  | anchor (number : Nat)
  | alias (number : Nat)
  | tag (text : List Char)
  | scalar (style : Style) (text : List Char)
deriving DecidableEq, Repr

/-- Something that may be a key. -/
structure Candidate where
  /-- whether nothing else can stand here -/
  required : Bool
  /-- how many pieces come before -/
  position : Nat
  start : Cursor

/-- Whether a colon here can belong to a candidate: in the same line, and
not more than 1024 characters behind its start. -/
def Candidate.reaches (k : Candidate) (c : Cursor) : Bool :=
  k.start.line == c.line && c.index ≤ k.start.index + 1024

/-- How far a text has been cut. -/
structure Cut where
  cursor : Cursor
  pieces : Array Piece := #[]
  /-- the columns of the open blocks, innermost first -/
  indents : List Nat := []
  /-- whether a key may start here -/
  keyAllowed : Bool := true
  /-- what may be a key at this level -/
  candidate : Option Candidate := none
  /-- what may be a key outside each of the open brackets, innermost first -/
  outside : List (Option Candidate) := []
  /-- the names of the anchors, each with its last number -/
  anchors : List (List Char × Nat) := []
  handles : Handles := []
  hasVersion : Bool := false

namespace Cut

/-- Whether a bracket is open. -/
def inFlow (s : Cut) : Bool := !s.outside.isEmpty

/-- The first column that is further in than the innermost block. -/
def limit (s : Cut) : Nat :=
  match s.indents with
  | [] => 0
  | column :: _ => column + 1

/-- Adds a piece that ends at a cursor. -/
def push (piece : Piece) (cursor : Cursor) (s : Cut) : Cut :=
  { s with pieces := s.pieces.push piece, cursor }

/-- Opens a block in the given column, if it is further in than the
innermost one, with its start in front of the given piece. -/
def openBlock (start : Piece) (column position : Nat) (s : Cut) : Cut :=
  if s.inFlow || column < s.limit then s
  else
    { s with
      indents := column :: s.indents
      pieces := s.pieces.insertIdxIfInBounds position start }

/-- Closes the blocks that are further in than some column: those whose
first columns have the given property. -/
def closeBlocks (isFurther : Nat → Bool) (s : Cut) : Cut :=
  if s.inFlow then s
  else
    let closed := s.indents.takeWhile isFurther
    { s with
      indents := s.indents.drop closed.length
      pieces := s.pieces ++ Array.replicate closed.length .closeBlock }

/-- Gives up the candidate, which is refused where nothing but a key can
stand. -/
def dropCandidate? (s : Cut) : Option Cut :=
  if s.candidate.any Candidate.required then none else some { s with candidate := none }

/-- Keeps in mind that a key may start here. -/
def noteCandidate? (s : Cut) : Option Cut :=
  if s.keyAllowed then
    s.dropCandidate?.map fun s =>
      { s with
        candidate := some {
          required := !s.inFlow && s.indents.head? == some s.cursor.column
          position := s.pieces.size
          start := s.cursor } }
  else some s

/-- To where the next piece starts: behind spaces, comments and line breaks,
and behind tabs where no key may start. A byte order mark at the start of a
line is passed over, but takes a column. -/
def toNext : Nat → Cut → Cut
  | 0, s => s
  | fuel + 1, s =>
    match s.cursor.rest with
    | [] => s
    | x :: _ =>
      if x == ' ' || (x == '\t' && (s.inFlow || !s.keyAllowed)) ||
          (x == '\ufeff' && s.cursor.column == 0) then
        toNext fuel { s with cursor := s.cursor.next }
      else if x == '#' then
        toNext fuel { s with cursor := s.cursor.skipWhile fun y => !isBreak y }
      else if isBreak x then
        toNext fuel { s with cursor := s.cursor.nextLine, keyAllowed := s.keyAllowed || !s.inFlow }
      else s

/-- A mark of a document, of three characters, or a directive: all blocks
end in front of it. -/
def endBlocks? (s : Cut) : Option Cut :=
  (s.closeBlocks fun _ => true).dropCandidate?.map fun s => { s with keyAllowed := false }

/-- A mark of a document. -/
def documentMark? (piece : Piece) (s : Cut) : Option Cut :=
  s.endBlocks?.map fun s => s.push piece (s.cursor.skip 3)

/-- Takes a directive into account. The version is 1.1 or 1.2 and said
once, as is the prefix of a handle. -/
def heed? (s : Cut) : Directive → Option Cut
  | .version major minor =>
    if s.hasVersion || major != 1 || (minor != 1 && minor != 2) then none
    else some { s with hasVersion := true }
  | .prefixOf handle text =>
    if (s.handles.lookup handle).isSome then none
    else some { s with handles := (handle, text) :: s.handles }

/-- A directive, to the end of its line. -/
def directive? (s : Cut) : Option Cut := do
  let s ← s.endBlocks?
  let (directive, rest) ← Directive.read? (s.cursor.rest.drop 1)
  let cursor ← (s.cursor.upTo rest).endLine?
  return (← s.heed? directive).push .directive cursor

/-- An opening bracket. -/
def openBracket? (piece : Piece) (s : Cut) : Option Cut :=
  s.noteCandidate?.map fun s =>
    { s.push piece s.cursor.next with
      keyAllowed := true, candidate := none, outside := s.candidate :: s.outside }

/-- A closing bracket. What was a candidate outside is one again. -/
def closeBracket? (piece : Piece) (s : Cut) : Option Cut :=
  s.dropCandidate?.map fun s =>
    { s.push piece s.cursor.next with
      keyAllowed := false, candidate := s.outside.head?.join, outside := s.outside.tail }

/-- A comma. -/
def comma? (s : Cut) : Option Cut :=
  s.dropCandidate?.map fun s => { s.push .comma s.cursor.next with keyAllowed := true }

/-- Opens a block here, where a key must be allowed; nothing happens inside
brackets. -/
def openBlockHere? (start : Piece) (s : Cut) : Option Cut :=
  if s.inFlow then some s
  else if s.keyAllowed then some (s.openBlock start s.cursor.column s.pieces.size)
  else none

/-- A dash. -/
def dash? (s : Cut) : Option Cut := do
  let s ← (← s.openBlockHere? .items).dropCandidate?
  return { s.push .dash s.cursor.next with keyAllowed := true }

/-- The mark of a key. -/
def key? (s : Cut) : Option Cut := do
  let s ← (← s.openBlockHere? .fields).dropCandidate?
  return { s.push .key s.cursor.next with keyAllowed := !s.inFlow }

/-- A colon: the candidate that it belongs to is a key. Without one, the key
is marked or empty. -/
def value? (s : Cut) : Option Cut :=
  match s.candidate with
  | some k =>
    if k.reaches s.cursor then
      let s := { s with pieces := s.pieces.insertIdxIfInBounds k.position .key, candidate := none }
      let s := s.openBlock .fields k.start.column k.position
      some { s.push .value s.cursor.next with keyAllowed := false }
    else if k.required then none
    else unkeyed? { s with candidate := none }
  | none => unkeyed? s
where
  unkeyed? (s : Cut) : Option Cut :=
    (s.openBlockHere? .fields).map fun s => { s.push .value s.cursor.next with keyAllowed := !s.inFlow }

/-- A piece that may start a key, with the cursor behind it. -/
def keyable? (read : Cut → Option (Piece × Cursor)) (s : Cut) : Option Cut := do
  let s ← s.noteCandidate?
  let (piece, cursor) ← read s
  return { s.push piece cursor with keyAllowed := false }

/-- An anchor, with the number of different names that came before. -/
def anchor? (s : Cut) : Option Cut := do
  let (name, rest) ← anchorName? (s.cursor.rest.drop 1)
  let number := s.anchors.length
  let s ← s.keyable? fun s => some (.anchor number, s.cursor.upTo rest)
  return { s with anchors := (name, number) :: s.anchors.filter (·.1 ≠ name) }

/-- An alias. Its name must have been given. -/
def alias? : Cut → Option Cut :=
  keyable? fun s => do
    let (name, rest) ← anchorName? (s.cursor.rest.drop 1)
    return (.alias (← s.anchors.lookup name), s.cursor.upTo rest)

/-- A tag. White space stands behind it, or, inside brackets, a comma. -/
def tag? : Cut → Option Cut :=
  keyable? fun s => do
    let (text, rest) ← Yaml.tag? (s.handles ++ commonHandles) s.cursor.rest
    if atGap rest || (s.inFlow && rest.head? == some ',') then
      return (.tag text, s.cursor.upTo rest)
    else none

/-- A quoted scalar. -/
def quoted? (read : Nat → List Char → Cursor → Option (List Char × Cursor)) (fuel : Nat) :
    Cut → Option Cut :=
  keyable? fun s => (read fuel [] s.cursor.next).map fun r => (.scalar .quoted r.1, r.2)

/-- A plain scalar. A key may follow one that ends with its line. -/
def plain? (fuel : Nat) (s : Cut) : Option Cut := do
  let s ← s.noteCandidate?
  let (text, broken, cursor) ← Yaml.plain? s.inFlow s.limit fuel s.cursor
  return { s.push (.scalar .plain text) cursor with keyAllowed := broken }

/-- A block behind `|` or `>`. -/
def block? (style : Style) (fuel : Nat) (s : Cut) : Option Cut := do
  let s ← s.dropCandidate?
  let (text, cursor) ← Yaml.block? (style == .folded) s.limit fuel s.cursor.next
  return { s.push (.scalar style text) cursor with keyAllowed := true }

/-- The characters with which no plain scalar starts. -/
def reserved : List Char :=
  ['-', '?', ':', ',', '[', ']', '\x7b', '\x7d', '#', '&', '*', '!', '|', '>', '\'', '"', '%', '@', '\x60']

/-- Whether a plain scalar starts here, where no other piece does. -/
def startsPlain (s : Cut) : Bool :=
  match s.cursor.rest with
  | [] => false
  | x :: _ =>
    !(isBlank x || reserved.contains x) || x == '-' || (!s.inFlow && (x == '?' || x == ':'))

/-- Cuts off the next piece, which starts at the cursor. -/
def step? (fuel : Nat) (s : Cut) : Option Cut :=
  if s.cursor.atMark '-' then s.documentMark? .documentStart
  else if s.cursor.atMark '.' then s.documentMark? .documentEnd
  else
    match s.cursor.rest with
    | '[' :: _ => s.openBracket? .openList
    | '\x7b' :: _ => s.openBracket? .openMap
    | ']' :: _ => s.closeBracket? .closeList
    | '\x7d' :: _ => s.closeBracket? .closeMap
    | ',' :: _ => s.comma?
    | '*' :: _ => s.alias?
    | '&' :: _ => s.anchor?
    | '!' :: _ => s.tag?
    | '\'' :: _ => s.quoted? singleQuoted? fuel
    | '"' :: _ => s.quoted? doubleQuoted? fuel
    | x :: rest =>
      if x == '%' && s.cursor.column == 0 then s.directive?
      else if x == '-' && atGap rest then s.dash?
      else if x == '?' && (s.inFlow || atGap rest) then s.key?
      else if x == ':' && (s.inFlow || atGap rest) then s.value?
      else if x == '|' && !s.inFlow then s.block? .literal fuel
      else if x == '>' && !s.inFlow then s.block? .folded fuel
      else if s.startsPlain then s.plain? fuel
      else none
    | [] => none

/-- Cuts a text up from here on. -/
def run? : Nat → Cut → Option (Array Piece)
  | 0, _ => none
  | fuel + 1, s =>
    let s := s.toNext (fuel + 1)
    if s.cursor.rest.isEmpty then s.endBlocks?.map Cut.pieces
    else ((s.closeBlocks (s.cursor.column < ·)).step? (fuel + 1)).bind (run? fuel)

end Cut

/-- Cuts a text up. -/
def cut? (text : String) : Option (List Piece) :=
  let rest := text.toList
  if rest.all isAllowed then
    (Cut.run? (rest.length + 1) { cursor := { rest } }).map Array.toList
  else none

end EntityBase.Yaml
