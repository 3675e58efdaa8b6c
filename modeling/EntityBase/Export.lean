import EntityBase.Store.Basic

/-!
# Export — a store as a program that builds it again

The program registers every definition, adds every component as a record
and leaves the stack as it found it. A record names its definition by the
content hash, so a component keeps its own definition also where a newer
one took over the uri, and whatever ids the definitions get.

Stored data are written as literals of the language: as their compact
text, but with blanks in the place of commas and colons, and with `nil`.
The reserved fields of a record stand first in it.
-/

namespace EntityBase

namespace Json

/-- Texts with blanks between them. -/
def spaced : List (List Char) → List Char
  | [] => []
  | [t] => t
  | t :: rest => t ++ ' ' :: spaced rest

/-- Whether a field name is one of the reserved form. -/
def isMarker (key : String) : Bool := key.toList.head? == some '@'

/-- Named texts as the inside of a map literal, the reserved ones first. -/
def spacedFields (fields : List (String × List Char)) : List Char :=
  spaced (((fields.filter fun e => isMarker e.1) ++ fields.filter fun e => !isMarker e.1).map
    fun e => Text.Quoted.encode e.1 ++ ' ' :: e.2)

mutual

/-- Stored data as a literal of the language. -/
def literal : Json → List Char
  | .null => ['n', 'i', 'l']
  | .array items => '[' :: (spaced (literalItems items) ++ [']'])
  | .object fields => '\x7b' :: (spacedFields (literalFields fields) ++ ['\x7d'])
  | value => value.render

/-- Items as literals. -/
def literalItems : List Json → List (List Char)
  | [] => []
  | item :: rest => literal item :: literalItems rest

/-- The values of fields as literals. -/
def literalFields : List (String × Json) → List (String × List Char)
  | [] => []
  | (key, value) :: rest => (key, literal value) :: literalFields rest

end

end Json

/-- A property as a map literal. -/
def Property.literal (p : Property) : List Char :=
  let text (s : String) : List Char := Text.Quoted.encode s
  let default := match p.default with
    | some value => [text "default" ++ ' ' :: value.literal]
    | none => []
  '\x7b' :: (Json.spaced ([text "name" ++ ' ' :: text p.name,
    text "type" ++ ' ' :: text p.type.name] ++ default) ++ ['\x7d'])

/-- A definition as a list literal of its uri and its properties. -/
def Definition.literal (d : Definition) : List Char :=
  '[' :: (Text.Quoted.encode d.uri ++ " [".toList ++
    (Json.spaced (d.properties.map Property.literal) ++ "]]".toList))

namespace Store

/-- The line that registers a definition. -/
def definitionLine (d : Definition) : List Char := d.literal ++ " !d +\n".toList

/-- The line of a component: its record. -/
def componentLine (s : Store) (c : Component) : List Char :=
  "  ".toList ++ ((Json.object (c.record (s.registry.byId? c.defId)).entries).literal ++ ['\n'])

/-- The lines that add every component. -/
def componentLines (s : Store) : List Char :=
  match s.componentList with
  | [] => []
  | components =>
    "[\n".toList ++ (components.flatMap s.componentLine ++ "] !c +\n".toList)

/-- The program, as characters. -/
def exportChars (s : Store) : List Char :=
  "@es\n".toList ++ (s.registry.toList.flatMap definitionLine ++
    (s.componentLines ++ "drop\n".toList))

/-- The program that builds the store again. -/
def exportText (s : Store) : String := String.ofList s.exportChars

end Store

end EntityBase
