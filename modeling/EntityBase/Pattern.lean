import EntityBase.Pattern.Footprint
import EntityBase.Pattern.Reader
import EntityBase.Pattern.Search

/-!
# Patterns

A pattern keeps the text it was read from. Two patterns are the same when
their texts are, whatever flags they were read under.
-/

namespace EntityBase

/-- A pattern that was read. -/
structure Pattern where
  source : String
  node : Pattern.Node
deriving Repr, Inhabited

namespace Pattern

/-- Reads a pattern under flags. -/
def compile? (flags : Flags) (source : String) : Option Pattern :=
  let text := source.toList
  match Reader.read? (text.length + 1) flags [] 0 { flags } [] text with
  | some part =>
    if part.height ≤ maxHeight && part.node.fits then some ⟨source, part.node⟩ else none
  | none => none

/-- Whether some part of a text matches. -/
def isMatch (p : Pattern) (text : String) : Bool := p.node.isMatch text.toList

/-- Equality of patterns. -/
def same (p q : Pattern) : Bool := p.source == q.source

end Pattern

end EntityBase
