import EntityBase.Text.Age
import EntityBase.Text.Blank
import EntityBase.Text.Boundary
import EntityBase.Text.Casing
import EntityBase.Text.Script

/-!
# Classes — the character sets that have names

A pattern names sets of characters in three ways: by a word between colons
(`[:alpha:]`, ASCII only), by a letter behind a backslash (`\d`, `\s`, `\w`)
and by a property (`\p`). The name of a property is read loosely, and it
may stand for a property of characters, a category or a script, in this
order. A name and a value say which of the tables is meant.
-/

namespace EntityBase.Pattern

/-- The union of some ranges of characters. -/
def rangesOf (ranges : List (Char × Char)) : CharSet :=
  .ofRanges (ranges.map fun (a, b) => ⟨a.toNat, b.toNat⟩)

/-- A class of ASCII characters by its name. -/
def asciiClass? : String → Option CharSet
  | "alnum" => some (rangesOf [('0', '9'), ('A', 'Z'), ('a', 'z')])
  | "alpha" => some (rangesOf [('A', 'Z'), ('a', 'z')])
  | "ascii" => some (rangesOf [('\x00', '\x7f')])
  | "blank" => some (rangesOf [('\t', '\t'), (' ', ' ')])
  | "cntrl" => some (rangesOf [('\x00', '\x1f'), ('\x7f', '\x7f')])
  | "digit" => some (rangesOf [('0', '9')])
  | "graph" => some (rangesOf [('!', '~')])
  | "lower" => some (rangesOf [('a', 'z')])
  | "print" => some (rangesOf [(' ', '~')])
  | "punct" => some (rangesOf [('!', '/'), (':', '@'), ('[', '\x60'), ('\x7b', '~')])
  | "space" => some (rangesOf [('\t', '\r'), (' ', ' ')])
  | "upper" => some (rangesOf [('A', 'Z')])
  | "word" => some (rangesOf [('0', '9'), ('A', 'Z'), ('_', '_'), ('a', 'z')])
  | "xdigit" => some (rangesOf [('0', '9'), ('A', 'F'), ('a', 'f')])
  | _ => none

/-- The digits, `ascii` or of every script. -/
def digits (ascii : Bool) : CharSet := if ascii then rangesOf [('0', '9')] else Text.decimals

/-- The white space, `ascii` or all of it. -/
def blanks (ascii : Bool) : CharSet :=
  if ascii then rangesOf [('\t', '\r'), (' ', ' ')] else Text.blankChars

/-- What words consist of, `ascii` or of every script. -/
def wordChars (ascii : Bool) : CharSet :=
  if ascii then rangesOf [('0', '9'), ('A', 'Z'), ('_', '_'), ('a', 'z')] else Text.wordChars

/-- A name without its case, blanks, hyphens and underscores, without what
is not ASCII, and without a leading `is`, unless only a `c` would be left. -/
def looseName (name : List Char) : String :=
  let (startsIs, rest) := match name with
    | i :: s :: rest => if i.toLower == 'i' && s.toLower == 's' then (true, rest) else (false, name)
    | name => (false, name)
  let loose := (rest.filter fun c =>
    c.toNat < 128 && c != ' ' && c != '-' && c != '_').map Char.toLower
  String.ofList (if startsIs && loose == ['c'] then ['i', 's', 'c'] else loose)

/-- The set of a named property, category or script. -/
def property? (name : List Char) : Option CharSet :=
  let loose := looseName name
  (Text.Blend.namedChars? Text.properties loose).or <|
    (Text.Category.namedChars? loose).or (Text.Script.namedChars? loose)

/-- The set of the characters that have a value in a named table. -/
def propertyValue? (table value : List Char) : Option CharSet :=
  let value := looseName value
  match looseName table with
  | "gc" | "generalcategory" => Text.Category.namedChars? value
  | "sc" | "script" => Text.Script.namedChars? value
  | "scx" | "scriptextensions" => Text.Script.namedUse? value
  | "age" => Text.charsUpTo? value
  | "gcb" | "graphemeclusterbreak" => Text.Blend.namedChars? Text.graphemeKinds value
  | "wb" | "wordbreak" => Text.Blend.namedChars? Text.wordKinds value
  | "sb" | "sentencebreak" => Text.Blend.namedChars? Text.sentenceKinds value
  | _ => none

/-- A text in two parts around the first place of a separator. -/
def splitAt? (separator : List Char) : List Char → Option (List Char × List Char)
  | [] => none
  | c :: rest =>
    if separator.isPrefixOf (c :: rest) then some ([], (c :: rest).drop separator.length)
    else (splitAt? separator rest).map fun (before, after) => (c :: before, after)

/-- The set that the text of a property stands for. A name and a value have
`!=`, a colon or an equality sign between them, which all say the same. -/
def namedSet? (text : List Char) : Option CharSet :=
  match (splitAt? ['!', '='] text).or ((splitAt? [':'] text).or (splitAt? ['='] text)) with
  | some (table, value) => propertyValue? table value
  | none => property? text

end EntityBase.Pattern
