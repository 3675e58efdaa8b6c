import EntityBase.Pattern.Node

/-!
# Reading patterns

`Pattern.compile?` reads the text of a pattern: alternatives, groups,
repetitions, classes with set operations, escapes, assertions, and flags
that hold to the end of their group. There is no looking around and no
reference to a group. A text that breaks a rule yields nothing, and so does
a pattern that is nested too deeply or weighs too much.

Groups are read with a stack of open ones, and so are the classes inside
brackets; every step takes at least one character, so the length of the
text bounds the number of steps.
-/

namespace EntityBase.Pattern

/-- The flags under which a part of a pattern is read. -/
structure Flags where
  /-- letters match whatever their case -/
  ignoreCase : Bool := false
  /-- `^` and `$` match at lines -/
  multiLine : Bool := false
  /-- a dot matches line breaks -/
  dotAll : Bool := false
  /-- greed is turned around, which plays no role here -/
  swapGreed : Bool := false
  /-- classes reach beyond ASCII -/
  unicode : Bool := true
  /-- a carriage return breaks lines as well -/
  returns : Bool := false
  /-- blanks and comments are skipped -/
  blanks : Bool := false
deriving DecidableEq, Repr, Inhabited

/-- Sets or clears the flag with the given letter. -/
def Flags.set? (f : Flags) (letter : Char) (value : Bool) : Option Flags :=
  match letter with
  | 'i' => some { f with ignoreCase := value }
  | 'm' => some { f with multiLine := value }
  | 's' => some { f with dotAll := value }
  | 'U' => some { f with swapGreed := value }
  | 'u' => some { f with unicode := value }
  | 'R' => some { f with returns := value }
  | 'x' => some { f with blanks := value }
  | _ => none

/-- The greatest depth to which a pattern may be nested. -/
def maxHeight : Nat := 250

namespace Reader

/-- Skips blanks and comments, where they are skipped. The fuel is the
length of the text. -/
def skipFrom : Nat → List Char → List Char
  | 0, text => text
  | fuel + 1, text =>
    match text with
    | '#' :: rest => skipFrom fuel (rest.dropWhile (· != '\n'))
    | c :: rest => if Text.isBlank c then skipFrom fuel rest else c :: rest
    | [] => []

/-- Skips what the flags allow to skip. -/
def skip (flags : Flags) (text : List Char) : List Char :=
  if flags.blanks then skipFrom text.length text else text

/-! ## Single places -/

/-- What one place of a pattern says. -/
inductive Place where
  /-- a character, `byte` if it was written by two digits -/
  | literal (c : Char) (byte : Bool)
  | set (s : CharSet)
  | look (l : Look)

/-- The character with a code, if there is one. -/
def charOf? (n : Nat) : Option Char := if n.isValidChar then some (Char.ofNat n) else none

/-- The number that hexadecimal digits write. -/
def hex? (digits : List Char) : Option Nat :=
  digits.foldlM (fun n d => (Text.Quoted.hexValue? d).map fun v => 16 * n + v) 0

/-- Takes a number of hexadecimal digits. -/
def hexDigits? (flags : Flags) : Nat → List Char → Option (List Char × List Char)
  | 0, text => some ([], text)
  | n + 1, c :: rest =>
    if (Text.Quoted.hexValue? c).isSome then
      (hexDigits? flags n (skip flags rest)).map fun (ds, rest) => (c :: ds, rest)
    else none
  | _ + 1, [] => none

/-- Takes hexadecimal digits up to a closing brace. -/
def hexBraced? (flags : Flags) : Nat → List Char → Option (List Char × List Char)
  | 0, _ => none
  | fuel + 1, text =>
    match skip flags text with
    | '\x7d' :: rest => some ([], rest)
    | c :: rest =>
      if (Text.Quoted.hexValue? c).isSome then
        (hexBraced? flags fuel rest).map fun (ds, rest) => (c :: ds, rest)
      else none
    | [] => none

/-- Reads a character by its code, behind the letter of the escape. -/
def coded? (flags : Flags) (width : Nat) (text : List Char) : Option (Place × List Char) :=
  match skip flags text with
  | '\x7b' :: rest => do
    let (digits, rest) ← hexBraced? flags (rest.length + 1) rest
    if digits.isEmpty then none
    else
      let c ← (hex? digits).bind charOf?
      pure (.literal c false, skip flags rest)
  | text => do
    let (digits, rest) ← hexDigits? flags width text
    let c ← (hex? digits).bind charOf?
    pure (.literal c (width == 2), rest)

/-- A set as it is taken into an operation or closed by a bracket. -/
def widened (flags : Flags) (s : CharSet) : CharSet :=
  if flags.ignoreCase then (if flags.unicode then Text.anyCase s else Text.anyAsciiCase s) else s

/-- Takes a text up to a closing brace. The fuel is the length of the text. -/
def braced? (flags : Flags) : Nat → List Char → Option (List Char × List Char)
  | 0, _ => none
  | fuel + 1, text =>
    match skip flags text with
    | '\x7d' :: rest => some ([], rest)
    | c :: rest => (braced? flags fuel rest).map fun (name, rest) => (c :: name, rest)
    | [] => none

/-- Reads a property, behind the letter of the escape. -/
def propertyAt? (flags : Flags) (negated : Bool) (text : List Char) :
    Option (Place × List Char) := do
  let set (s : CharSet) : Place := .set ((widened flags s).complementIf negated)
  if !flags.unicode then none
  else
    match skip flags text with
    | '\x7b' :: rest =>
      let (name, rest) ← braced? flags (rest.length + 1) rest
      pure (set (← namedSet? name), rest)
    | '\\' :: _ => none
    | c :: rest => pure (set (← property? [c]), skip flags rest)
    | [] => none

/-- A class by its letter. -/
def shorthand (ascii : Bool) (c : Char) : CharSet :=
  match c.toLower with
  | 'd' => Pattern.digits ascii
  | 's' => Pattern.blanks ascii
  | _ => Pattern.wordChars ascii

/-- Reads what may stand in braces behind a word boundary: the name of a
special one. Braces around anything else are left for a repetition. -/
def boundary? (flags : Flags) (ascii : Bool) (text : List Char) : Option (Look × List Char) :=
  let isNameChar (c : Char) : Bool := c.isAlpha || c == '-'
  match text with
  | '\x7b' :: rest =>
    match skip flags rest with
    | [] => none
    | c :: _ =>
      if isNameChar c then
        let inner := (skip flags rest).takeWhile (· != '\x7d')
        let name := if flags.blanks then inner.filter fun c => !Text.isBlank c else inner
        match (skip flags rest).drop inner.length with
        | [] => none
        | _ :: after =>
          match String.ofList name with
          | "start" => some (.wordStart ascii, after)
          | "end" => some (.wordEnd ascii, after)
          | "start-half" => some (.wordStartHalf ascii, after)
          | "end-half" => some (.wordEndHalf ascii, after)
          | _ => none
      else some (.wordBoundary ascii, text)
  | _ => some (.wordBoundary ascii, text)

/-- Whether a character keeps its own meaning behind a backslash. -/
def isEscapable (c : Char) : Bool :=
  c.toNat < 128 && !c.isAlphanum && c != '<' && c != '>'

/-- Reads what follows a backslash. -/
def escape? (flags : Flags) : List Char → Option (Place × List Char)
  | [] => none
  | c :: rest =>
    let ascii := !flags.unicode
    match c with
    | 'x' => coded? flags 2 rest
    | 'u' => coded? flags 4 rest
    | 'U' => coded? flags 8 rest
    | 'p' => propertyAt? flags false rest
    | 'P' => propertyAt? flags true rest
    | 'd' | 's' | 'w' => some (.set (shorthand ascii c), rest)
    | 'D' | 'S' | 'W' => if ascii then none else some (.set (shorthand false c).complement, rest)
    | 'a' => some (.literal '\x07' false, rest)
    | 'f' => some (.literal '\x0c' false, rest)
    | 't' => some (.literal '\t' false, rest)
    | 'n' => some (.literal '\n' false, rest)
    | 'r' => some (.literal '\r' false, rest)
    | 'v' => some (.literal '\x0b' false, rest)
    | 'A' => some (.look .textStart, rest)
    | 'z' => some (.look .textEnd, rest)
    | 'b' => (boundary? flags ascii rest).map fun (l, rest) => (.look l, rest)
    | 'B' => some (.look (.noWordBoundary ascii), rest)
    | '<' => some (.look (.wordStart ascii), rest)
    | '>' => some (.look (.wordEnd ascii), rest)
    | c => if isEscapable c then some (.literal c false, rest) else none

/-! ## Classes -/

/-- A set operation. -/
inductive SetOp where
  | intersection
  | difference
  | symmetric

/-- Carries out a set operation. -/
def SetOp.apply (flags : Flags) (op : SetOp) (a b : CharSet) : CharSet :=
  let a := widened flags a
  let b := widened flags b
  match op with
  | .intersection => a.intersection b
  | .difference => a.difference b
  | .symmetric => a.symmetric b

/-- The literal of a place inside a class. Without classes beyond ASCII it
has to be an ASCII character. -/
def Place.literal? (flags : Flags) : Place → Option Char
  | .literal c _ => if flags.unicode || c.toNat < 128 then some c else none
  | _ => none

/-- The set of a place inside a class. -/
def Place.member? (flags : Flags) : Place → Option CharSet
  | .set s => some s
  | .look _ => none
  | p => (p.literal? flags).map CharSet.single

/-- Reads one place inside a class. -/
def classPlace? (flags : Flags) : List Char → Option (Place × List Char)
  | '\\' :: rest => escape? flags rest
  | c :: rest => some (.literal c false, rest)
  | [] => none

/-- Reads a member of a class: a place or a range of two literals. -/
def classMember? (flags : Flags) (text : List Char) : Option (CharSet × List Char) := do
  let (first, rest) ← classPlace? flags text
  match skip flags rest with
  | '-' :: more =>
    match skip flags more with
    | ']' :: _ | '-' :: _ => pure (← first.member? flags, '-' :: more)
    | [] => none
    | more =>
      let (last, rest) ← classPlace? flags more
      let a ← first.literal? flags
      let b ← last.literal? flags
      if a ≤ b then pure (.range a b, rest) else none
  | [] => none
  | rest => pure (← first.member? flags, rest)

/-- Reads a named class inside a class, behind its opening bracket. -/
def namedClass? (flags : Flags) (text : List Char) : Option (CharSet × List Char) :=
  match text with
  | ':' :: rest =>
    let (negated, rest) := match rest with
      | '^' :: rest => (true, rest)
      | rest => (false, rest)
    let (name, rest) := rest.span (· != ':')
    match rest with
    | ':' :: ']' :: rest =>
      (asciiClass? (String.ofList name)).map fun s =>
        ((widened flags s).complementIf negated, rest)
    | _ => none
  | _ => none

/-- Whether a named class is negated. -/
def isNegatedClass : List Char → Bool
  | ':' :: '^' :: _ => true
  | _ => false

/-- What was read of a class, with the depth to which it is nested. -/
structure ClassPart where
  chars : CharSet
  height : Nat

/-- A class that is open: whether it is negated, the set and the number of
the members so far with the depth of the deepest one, and the operation that
waits for them as its right side. -/
structure OpenClass where
  negated : Bool
  chars : CharSet := .empty
  count : Nat := 0
  height : Nat := 0
  waiting : Option (SetOp × ClassPart) := none

/-- Takes a member in. -/
def OpenClass.take (o : OpenClass) (s : CharSet) (height : Nat) : OpenClass :=
  { o with chars := o.chars.union s, count := o.count + 1, height := max o.height height }

/-- The members and the operation that waits for them. Several members are
one level deeper than a single one, and so are the sides of an operation. -/
def OpenClass.left (flags : Flags) (o : OpenClass) : ClassPart :=
  let height := if 1 < o.count then o.height + 1 else o.height
  match o.waiting with
  | some (op, left) => ⟨op.apply flags left.chars o.chars, max left.height height + 1⟩
  | none => ⟨o.chars, height⟩

/-- Begins the right side of an operation. -/
def OpenClass.operate (flags : Flags) (o : OpenClass) (op : SetOp) : OpenClass :=
  { negated := o.negated, waiting := some (op, o.left flags) }

/-- The set of a closed class. Without classes beyond ASCII it must not
leave ASCII, as every complement does. -/
def OpenClass.close? (flags : Flags) (o : OpenClass) : Option ClassPart :=
  let part := o.left flags
  if o.negated && !flags.unicode then none
  else some ⟨(widened flags part.chars).complementIf o.negated, part.height + 1⟩

/-- Takes the hyphens that open a class. The fuel is the length of the
text. -/
def openingHyphens (flags : Flags) : Nat → OpenClass → List Char → OpenClass × List Char × Bool
  | fuel + 1, o, '-' :: rest =>
    let (o, rest, _) := openingHyphens flags fuel (o.take (.single '-') 0) (skip flags rest)
    (o, rest, true)
  | _, o, text => (o, text, false)

/-- Opens a class, behind its bracket. A bracket that would close it at once
is a member of it. -/
def openClass? (flags : Flags) (text : List Char) : Option (OpenClass × List Char) :=
  let (negated, text) := match skip flags text with
    | '^' :: rest => (true, skip flags rest)
    | text => (false, text)
  let (o, text, hyphens) := openingHyphens flags text.length { negated } text
  match hyphens, text with
  | _, [] => none
  | false, ']' :: rest => some (o.take (.single ']') 0, skip flags rest)
  | _, text => some (o, text)

/-- Reads a class from the open ones, the innermost first. The fuel is the
length of the text. -/
def class? (flags : Flags) :
    Nat → OpenClass → List OpenClass → List Char → Option (ClassPart × List Char)
  | 0, _, _, _ => none
  | fuel + 1, o, outer, text =>
    match skip flags text with
    | [] => none
    | '[' :: rest =>
      match namedClass? flags rest with
      | some (s, after) =>
        if isNegatedClass rest && !flags.unicode then none
        else class? flags fuel (o.take s 0) outer after
      | none => do
        let (inner, after) ← openClass? flags rest
        class? flags fuel inner (o :: outer) after
    | ']' :: rest => do
      let part ← o.close? flags
      match outer with
      | [] => pure (part, rest)
      | o :: outer => class? flags fuel (o.take part.chars part.height) outer rest
    | '&' :: '&' :: rest => class? flags fuel (o.operate flags .intersection) outer rest
    | '-' :: '-' :: rest => class? flags fuel (o.operate flags .difference) outer rest
    | '~' :: '~' :: rest => class? flags fuel (o.operate flags .symmetric) outer rest
    | text => do
      let (s, rest) ← classMember? flags text
      class? flags fuel (o.take s 0) outer rest

/-! ## Repetitions -/

/-- Skips blanks, whatever the flags. -/
def skipBlanks (text : List Char) : List Char := text.dropWhile Text.isBlank

/-- Takes the digits of a number. The fuel is the length of the text. -/
def digits (flags : Flags) : Nat → List Char → List Char × List Char
  | fuel + 1, c :: rest =>
    if c.isDigit then
      let (ds, rest) := digits flags fuel (skip flags rest)
      (c :: ds, rest)
    else ([], c :: rest)
  | _, text => ([], text)

/-- A count between blanks, of 32 bits. -/
def count? (flags : Flags) (text : List Char) : Option (Nat × List Char) :=
  let text := skipBlanks text
  let (ds, rest) := digits flags text.length text
  let n := ds.foldl (fun n d => 10 * n + (d.toNat - '0'.toNat)) 0
  if ds.isEmpty || 4294967296 ≤ n then none else some (n, skipBlanks rest)

/-- Reads the bounds of a repetition, behind its opening brace. -/
def bounds? (flags : Flags) (text : List Char) : Option (Nat × Option Nat × List Char) := do
  let (least, rest) ← count? flags (skip flags text)
  match rest with
  | '\x7d' :: rest => pure (least, some least, rest)
  | ',' :: rest =>
    match skip flags rest with
    | '\x7d' :: rest => pure (least, none, rest)
    | rest =>
      let (most, rest) ← count? flags rest
      match rest with
      | '\x7d' :: rest => if least ≤ most then pure (least, some most, rest) else none
      | _ => none
  | _ => none

/-! ## Groups -/

/-- A part of a pattern that is read, with its depth. A change of flags is
a part that nothing can be repeated of. -/
structure Part where
  node : Node
  height : Nat := 0
  repeatable : Bool := true

/-- What is open: the number under which a group is captured, if it is one;
the alternatives that are read, the last one first, and the parts of the
current one, likewise; and the flags to go back to. -/
structure OpenGroup where
  capture : Option Nat := none
  alternatives : List Part := []
  parts : List Part := []
  flags : Flags

/-- The depth of some parts side by side. -/
def heightOf (parts : List Part) : Nat := parts.foldl (fun h p => max h p.height) 0 + 1

/-- The sequence of the parts, the last one first. -/
def sequence : List Part → Part
  | [] => { node := .empty }
  | [p] => p
  | parts => { node := .concat (parts.map Part.node).reverse, height := heightOf parts }

/-- The alternatives and the current sequence as one part. -/
def OpenGroup.part (g : OpenGroup) : Part :=
  match g.alternatives with
  | [] => sequence g.parts
  | earlier =>
    let all := sequence g.parts :: earlier
    { node := .alternation (all.map Part.node).reverse, height := heightOf all }

/-- A closed group. -/
def OpenGroup.close (g : OpenGroup) : Part :=
  let p := g.part
  { node := match g.capture with
      | some index => .capture index p.node
      | none => p.node
    height := p.height + 1 }

/-- Adds a part. -/
def OpenGroup.add (g : OpenGroup) (p : Part) : OpenGroup := { g with parts := p :: g.parts }

/-- Whether a character can stand in the name of a group. -/
def isNameChar (first : Bool) (c : Char) : Bool :=
  c == '_' || Text.alphabetic.contains c ||
    (!first && (c == '.' || c == '[' || c == ']' ||
      Text.Category.numbers.contains (Text.Category.ofChar c)))

/-- Reads the name of a group and its closing angle bracket. -/
def groupName? (text : List Char) : Option (String × List Char) :=
  let (name, rest) := text.span (· != '>')
  match name, rest with
  | c :: more, _ :: rest =>
    if isNameChar true c && more.all (isNameChar false) then some (String.ofList name, rest) else none
  | _, _ => none

/-- Reads a list of flags up to a colon or a closing parenthesis, and says
which of them it was. `seen` holds the letters so far, `negated` whether a
minus sign was read, `dangling` whether it was the last thing read. -/
def flags? (f : Flags) (seen : List Char) (negated dangling : Bool) :
    List Char → Option (Flags × Bool × List Char)
  | [] => none
  | ':' :: rest => if dangling then none else some (f, true, rest)
  | ')' :: rest => if dangling || seen.isEmpty then none else some (f, false, rest)
  | '-' :: rest => if negated then none else flags? f ('-' :: seen) true true rest
  | c :: rest =>
    if seen.contains c then none
    else (f.set? c (!negated)).bind fun f => flags? f (c :: seen) negated false rest

/-- What follows an opening parenthesis. -/
inductive Opening where
  /-- a group, read under flags -/
  | group (captures : Bool) (flags : Flags)
  /-- flags to the end of the enclosing group -/
  | change (flags : Flags)

/-- Reads what follows an opening parenthesis. `names` are the names of the
groups so far. -/
def opening? (flags : Flags) (names : List String) (text : List Char) :
    Option (Opening × List String × List Char) :=
  match skip flags text with
  | '?' :: '=' :: _ | '?' :: '!' :: _ | '?' :: '<' :: '=' :: _ | '?' :: '<' :: '!' :: _ => none
  | '?' :: 'P' :: '<' :: rest | '?' :: '<' :: rest =>
    match groupName? rest with
    | some (name, rest) =>
      if names.contains name then none else some (.group true flags, name :: names, rest)
    | none => none
  | '?' :: rest =>
    match flags? flags [] false false rest with
    | some (flags, true, rest) => some (.group false flags, names, rest)
    | some (flags, false, rest) => some (.change flags, names, rest)
    | none => none
  | rest => some (.group true flags, names, rest)

/-- A character as it is matched under the flags. -/
def literalNode? (flags : Flags) (c : Char) (byte : Bool) : Option Node :=
  if !flags.unicode && byte && 128 ≤ c.toNat then none
  else if flags.ignoreCase && (flags.unicode || c.toNat < 128) then
    some (.ofSet (!flags.unicode) (widened flags (.single c)))
  else some (.literal [c])

/-- What a dot matches under the flags. -/
def dot? (flags : Flags) : Option CharSet :=
  if !flags.unicode then none
  else if flags.dotAll then some .every
  else if flags.returns then some (rangesOf [('\n', '\n'), ('\r', '\r')]).complement
  else some (CharSet.single '\n').complement

/-- What a circumflex looks for under the flags. -/
def lineStart (flags : Flags) : Look :=
  if flags.multiLine then (if flags.returns then .returnLineStart else .lineStart) else .textStart

/-- What a dollar sign looks for under the flags. -/
def lineEnd (flags : Flags) : Look :=
  if flags.multiLine then (if flags.returns then .returnLineEnd else .lineEnd) else .textEnd

/-- A place as a node. -/
def Place.node? (flags : Flags) : Place → Option Node
  | .literal c byte => literalNode? flags c byte
  | .set s => some (.ofSet (!flags.unicode) s)
  | .look l => some (.look l)

/-- The question mark that makes a repetition reluctant. -/
def reluctant : List Char → Bool × List Char
  | '?' :: rest => (true, rest)
  | text => (false, text)

/-- Repeats the last part. -/
def OpenGroup.repeat? (g : OpenGroup) (least : Nat) (most : Option Nat) (greedy : Bool) :
    Option OpenGroup :=
  match g.parts with
  | p :: parts =>
    if p.repeatable then
      some { g with
        parts := { node := .repeat_ p.node least most greedy, height := p.height + 1 } :: parts }
    else none
  | [] => none

/-- The bounds of the repetition that a text begins with, if there is one. -/
def repetition? (flags : Flags) : List Char → Option (Option (Nat × Option Nat × List Char))
  | '?' :: rest => some (some (0, some 1, rest))
  | '*' :: rest => some (some (0, none, rest))
  | '+' :: rest => some (some (1, none, rest))
  | '\x7b' :: rest =>
    some ((bounds? flags rest).map fun (least, most, rest) => (least, most, skip flags rest))
  | _ => none

/-- The part of a pattern that stands in one place. -/
def place? (flags : Flags) : List Char → Option (Part × List Char)
  | '[' :: rest => do
    let (o, rest) ← openClass? flags rest
    let (part, rest) ← class? flags (rest.length + 1) o [] rest
    pure ({ node := .ofSet (!flags.unicode) part.chars, height := part.height }, rest)
  | '\\' :: rest => do
    let (place, rest) ← escape? flags rest
    pure ({ node := ← place.node? flags }, rest)
  | '.' :: rest => do pure ({ node := .ofSet false (← dot? flags) }, rest)
  | '^' :: rest => some ({ node := .look (lineStart flags) }, rest)
  | '$' :: rest => some ({ node := .look (lineEnd flags) }, rest)
  | c :: rest => do pure ({ node := ← literalNode? flags c false }, rest)
  | [] => none

/-- Reads a pattern from the open groups, the innermost first. `names` are
the names of the groups so far and `captures` is their number. The fuel is
the length of the text. -/
def read? :
    Nat → Flags → List String → Nat → OpenGroup → List OpenGroup → List Char → Option Part
  | 0, _, _, _, _, _, _ => none
  | fuel + 1, flags, names, captures, g, outer, text =>
    match skip flags text with
    | [] => if outer.isEmpty then some g.part else none
    | '(' :: rest => do
      let (opening, names, rest) ← opening? flags names rest
      match opening with
      | .group true inner =>
        read? fuel inner names (captures + 1) { capture := some (captures + 1), flags }
          (g :: outer) rest
      | .group false inner => read? fuel inner names captures { flags } (g :: outer) rest
      | .change flags =>
        read? fuel flags names captures (g.add { node := .empty, repeatable := false }) outer rest
    | ')' :: rest =>
      match outer with
      | [] => none
      | parent :: outer => read? fuel g.flags names captures (parent.add g.close) outer rest
    | '|' :: rest =>
      read? fuel flags names captures
        { g with alternatives := sequence g.parts :: g.alternatives, parts := [] } outer rest
    | text =>
      match repetition? flags text with
      | some bounds => do
        let (least, most, rest) ← bounds
        let (reluctant, rest) := reluctant rest
        read? fuel flags names captures (← g.repeat? least most (reluctant == flags.swapGreed))
          outer rest
      | none => do
        let (part, rest) ← place? flags text
        read? fuel flags names captures (g.add part) outer rest

end Reader

end EntityBase.Pattern
