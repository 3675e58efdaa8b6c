import EntityBase.Binary64
import EntityBase.Decimal
import EntityBase.Json

/-!
# Scalars — numbers, texts and words that wait

A scalar is `nil`, a truth value, a whole number, a double, a text, or a
**quoted word**: a word that stands in a list and runs when the list is
evaluated. Stars in front of a word keep it from running; each evaluation
takes one of them away.
-/

namespace EntityBase

/-- A word that is not run yet. -/
inductive QuotedWord where
  /-- runs what has the name -/
  | word (name : String)
  /-- `$name`: fetches what has the name -/
  | ref (name : String)
  /-- `^name`: fetches from the enclosing frame -/
  | backRef (name : String)
  /-- `*name`: waits for as many evaluations as it has stars -/
  | escaped (depth : Nat) (name : String)
  /-- `/uri#pointer`: a field of a definition -/
  | attr (path : String)
deriving DecidableEq, Repr, Inhabited

namespace QuotedWord

/-- What a text means once it is not escaped. -/
def ofPlain : List Char → QuotedWord
  | '$' :: name => .ref (String.ofList name)
  | '^' :: name => .backRef (String.ofList name)
  | '/' :: rest =>
    if rest.contains '#' then .attr (String.ofList ('/' :: rest))
    else .word (String.ofList ('/' :: rest))
  | name => .word (String.ofList name)

/-- What a text means: stars in front of anything escape it. -/
def ofChars (text : List Char) : QuotedWord :=
  match text.takeWhile (· == '*'), text.dropWhile (· == '*') with
  | star :: stars, c :: rest => .escaped (star :: stars).length (String.ofList (c :: rest))
  | _, rest => ofPlain rest

/-- What a text means. -/
def ofText (text : String) : QuotedWord := ofChars text.toList

/-- The name without decoration. -/
def name : QuotedWord → String
  | .word n | .ref n | .backRef n | .escaped _ n | .attr n => n

/-- The word as it is written. -/
def render : QuotedWord → List Char
  | .word n | .attr n => n.toList
  | .ref n => '$' :: n.toList
  | .backRef n => '^' :: n.toList
  | .escaped depth n => List.replicate depth '*' ++ n.toList

/-- The word as it is written, as a string. -/
def text (q : QuotedWord) : String := String.ofList q.render

end QuotedWord

/-- A value without parts. -/
inductive Scalar where
  | nil
  | bool (b : Bool)
  | int (n : Int)
  | float (x : Float)
  | text (s : String)
  | quoted (q : QuotedWord)
deriving DecidableEq, Repr, Inhabited

namespace Scalar

/-- A number as a double. -/
def toFloat? : Scalar → Option Float
  | .int n => some (Float.ofInt n)
  | .float x => some x
  | _ => none

/-- A number as a whole number; a double has to be one, and is then brought
into range. -/
def toInt? : Scalar → Option Int
  | .int n => some n
  | .float x => Binary64.toInt64? x
  | _ => none

/-- A text or the name of a quoted word. -/
def name? : Scalar → Option String
  | .text s => some s
  | .quoted q => some q.name
  | _ => none

/-- Whether the scalar is a number. -/
def isNumber : Scalar → Bool
  | .int _ | .float _ => true
  | _ => false

/-- Everything counts as true but `nil`, `false`, zero and the empty text. -/
def truthy : Scalar → Bool
  | .nil => false
  | .bool b => b
  | .int n => n != 0
  | .float x => x != 0.0
  | .text s => s != ""
  | .quoted _ => true

/-- Equality of scalars: numbers are compared as doubles. -/
def same (a b : Scalar) : Bool :=
  match a.toFloat?, b.toFloat? with
  | some x, some y => x == y
  | _, _ => decide (a = b)

/-- The scalar as stored data: a double that is not finite is stored as
`null`, and a quoted word as its text. -/
def toJson : Scalar → Json
  | .nil => .null
  | .bool b => .bool b
  | .int n => .int n
  | .float x => .ofFloat x
  | .text s => .string s
  | .quoted q => .string q.text

/-- The display of a scalar. -/
def render : Scalar → List Char
  | .nil => ['n', 'i', 'l']
  | .bool true => ['t', 'r', 'u', 'e']
  | .bool false => ['f', 'a', 'l', 's', 'e']
  | .int n => Json.renderInt n
  | .float x => (Decimal.displayed.text x).toList
  | .text s => Text.Quoted.encode s
  | .quoted q => q.render

end Scalar

end EntityBase
