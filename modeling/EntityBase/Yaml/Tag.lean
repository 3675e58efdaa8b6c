import EntityBase.Yaml.Scalar

/-!
# Tags — what an outline says about its nodes

A tag is written `!<text>`, or as a handle and a suffix. A handle is `!`,
or a name between two of them, and stands for a prefix; a directive on a
line of its own gives a handle its prefix. In tags, `%` and two hexadecimal
digits stand for an octet, and the octets must come in the lengths that
their first ones announce. A tag is held as octets, each as the character
with its number, so that different tags have different texts.
-/

namespace EntityBase.Yaml

/-- The prefixes of handles, those of directives in front. -/
abbrev Handles := List (List Char × List Char)

/-- What handles stand for without directives. -/
def commonHandles : Handles :=
  [("!".toList, "!".toList), ("!!".toList, "tag:yaml.org,2002:".toList)]

/-- Whether a character may stand in a tag as it is. Those that part things
inside brackets may so only where nothing but a tag can stand. -/
def isTagChar (alone : Bool) (c : Char) : Bool :=
  isNameChar c || ";/?:@&=+$.!~*'()".contains c || (alone && ",[]".contains c)

/-- How many octets follow one that starts a character. -/
def trailing? (octet : Nat) : Option Nat :=
  if octet < 0x80 then some 0
  else if octet < 0xC0 then none
  else if octet < 0xE0 then some 1
  else if octet < 0xF0 then some 2
  else if octet < 0xF8 then some 3
  else none

/-- An octet where `pending` ones are due, and how many are due then. -/
def octet? (pending : Nat) (a b : Char) : Option (Nat × Nat) := do
  let octet := 16 * (← hexDigit? a) + (← hexDigit? b)
  if pending = 0 then return (octet, ← trailing? octet)
  else if octet / 64 = 2 then return (octet, pending - 1)
  else none

/-- The characters of a tag that a text starts with, of which `pending`
octets are due, and the rest. -/
def tagText? (alone : Bool) : Nat → List Char → Option (List Char × List Char)
  | pending, '%' :: a :: b :: rest =>
    match octet? pending a b with
    | none => none
    | some (octet, pending) => (tagText? alone pending rest).map fun r => (Char.ofNat octet :: r.1, r.2)
  | _ + 1, _ => none
  | 0, '%' :: _ => none
  | 0, c :: rest =>
    if isTagChar alone c then (tagText? alone 0 rest).map fun r => (c :: r.1, r.2)
    else some ([], c :: rest)
  | 0, [] => some ([], [])

/-- The handle that a text starts with, and the rest. It may end without a
second `!`. -/
def handle? : List Char → Option (List Char × List Char)
  | '!' :: rest =>
    let name := rest.takeWhile isNameChar
    match rest.drop name.length with
    | '!' :: rest => some ('!' :: name ++ ['!'], rest)
    | rest => some ('!' :: name, rest)
  | _ => none

/-- The full tag that a text starts with, and the rest. A suffix behind `!`
may be missing; the tag is `!` then. -/
def tag? (handles : Handles) : List Char → Option (List Char × List Char)
  | '!' :: '<' :: rest =>
    match tagText? true 0 rest with
    | some (c :: text, '>' :: rest) => some (c :: text, rest)
    | _ => none
  | text => do
    let (handle, rest) ← handle? text
    let (suffix, rest) ← tagText? false 0 rest
    if 1 < handle.length ∧ handle.getLast? = some '!' then
      if suffix.isEmpty then none else return ((← handles.lookup handle) ++ suffix, rest)
    else
      match handle.drop 1 ++ suffix with
      | [] => return (['!'], rest)
      | suffix => return ((← handles.lookup ['!']) ++ suffix, rest)

/-- The name that follows the `&` of an anchor or the `*` of an alias, and
the rest. -/
def anchorName? (text : List Char) : Option (List Char × List Char) :=
  let name := text.takeWhile isNameChar
  let rest := text.drop name.length
  if name.isEmpty then none
  else if atGap rest || rest.head?.any (fun c => "?:,]\x7d%@\x60".contains c) then some (name, rest)
  else none

/-- What a directive says. -/
inductive Directive where
  /-- the version of the outline's format -/
  | version (major minor : Nat)
  | prefixOf (handle text : List Char)
deriving DecidableEq, Repr

namespace Directive

/-- The number of at most nine digits that a text starts with, and the
rest. -/
def number? (text : List Char) : Option (Nat × List Char) :=
  let digits := text.takeWhile Char.isDigit
  if digits.isEmpty || 9 < digits.length then none
  else some (digits.foldl (fun n c => 10 * n + (c.toNat - 48)) 0, text.drop digits.length)

/-- A version, and the rest. -/
def version? (text : List Char) : Option (Directive × List Char) :=
  match number? (text.dropWhile isBlank) with
  | some (major, '.' :: rest) => (number? rest).map fun (minor, rest) => (.version major minor, rest)
  | _ => none

/-- A handle and its prefix, and the rest. -/
def prefixOf? (text : List Char) : Option (Directive × List Char) := do
  let (handle, rest) ← handle? (text.dropWhile isBlank)
  if (handle = ['!'] ∨ (1 < handle.length ∧ handle.getLast? = some '!')) ∧ rest.head?.any isBlank then
    let (text, rest) ← tagText? true 0 (rest.dropWhile isBlank)
    if !text.isEmpty && atGap rest then return (.prefixOf handle text, rest) else none
  else none

/-- The directive that a text starts with behind the `%`, and the rest of
its line. -/
def read? (text : List Char) : Option (Directive × List Char) :=
  let name := text.takeWhile isNameChar
  let rest := text.drop name.length
  if !atGap rest then none
  else if name = "YAML".toList then version? rest
  else if name = "TAG".toList then prefixOf? rest
  else none

end Directive

end EntityBase.Yaml
