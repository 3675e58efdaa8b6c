import EntityBase.Bitfield

/-!
# Filters — conditions on entities

A filter compares attributes of an entity with operands and joins such
comparisons. Operands are values of any kind, and filters are values
themselves, so the type of operands is a parameter here.
-/

namespace EntityBase

/-- A property of a definition: the bit of the definition, and a field name
or a pointer into the fields. -/
structure Attribute where
  mask : Bitfield
  pointer : String
deriving DecidableEq, Repr, Inhabited

namespace Attribute

/-- A property of the definition `d`. -/
def of (d : DefId) (pointer : String) : Attribute := ⟨Bitfield.empty.insert d, pointer⟩

/-- The definition, the least one if the mask has several. -/
def defId? (a : Attribute) : Option DefId := a.mask.toList.head?

/-- Equality of attributes, their masks compared as bitfields are. -/
def same (a b : Attribute) : Bool := a.mask.same b.mask && a.pointer == b.pointer

/-- The display of an attribute. -/
def text (a : Attribute) : String := s!"(ca {a.mask.text} #{a.pointer})"

end Attribute

/-- The comparisons. -/
inductive CompareOp where
  | eq
  | ne
  | lt
  | le
  | gt
  | ge
deriving DecidableEq, Repr, Inhabited

namespace CompareOp

/-- The word of a comparison. -/
def text : CompareOp → String
  | .eq => "=="
  | .ne => "!="
  | .lt => "<"
  | .le => "<="
  | .gt => ">"
  | .ge => ">="

/-- Whether a comparison holds of an order. -/
def holds (op : CompareOp) (o : Ordering) : Bool :=
  match op with
  | .eq => o.isEq
  | .ne => o.isNe
  | .lt => o.isLT
  | .le => o.isLE
  | .gt => o.isGT
  | .ge => o.isGE

end CompareOp

/-- A condition on entities, with operands of type `ω`. -/
inductive Filter (ω : Type) where
  | and (left right : Filter ω)
  | or (left right : Filter ω)
  | compare (op : CompareOp) (attr : Attribute) (operand : ω)
deriving Inhabited

end EntityBase
