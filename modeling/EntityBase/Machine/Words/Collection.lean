import EntityBase.Machine.Basic

/-!
# Words on lists, maps and fields

Operands are read in the order in which they were pushed: a list before its
new item, a collection before a key, the left operand of a set operation
before the right one.
-/

namespace EntityBase.Machine

/-- The text of a scalar as it is joined: a text as it is, anything else by
its display. -/
def joinedText : Scalar → String
  | .text s => s
  | s => (Value.scalar s).display

/-- What the word does. -/
def runCollection : CollectionWord → Run Unit
  | .push => do
    let v ← Run.pop
    let items ← Run.popList
    Run.push (.list (items ++ [v]))
  | .concat => do
    let b ← Run.popList
    let a ← Run.popList
    Run.push (.list (a ++ b))
  | .concatText => do
    let b ← Run.popScalar
    let a ← Run.popScalar
    Run.push (.text (joinedText a ++ joinedText b))
  | .getIndex => do
    let position ← Run.popInteger
    let items ← Run.popList
    Run.push (Value.itemAt items position)
  | .getKey => do
    let key ← Run.popName
    let fields ← Run.popMap
    Run.push ((Entries.get? key fields).getD Value.nil)
  | .getField => do
    let key ← Run.popName
    let c ← Run.popComponent
    Run.push (((c.pointer? key).map Value.ofJson).getD Value.nil)
  | .setIndex => do
    let v ← Run.pop
    let position ← Run.popInteger
    let items ← Run.popList
    match Value.putAt? items position v with
    | some items => Run.push (.list items)
    | none => Run.invalid (.indexOutOfRange position)
  | .setKey => do
    let v ← Run.pop
    let key ← Run.popName
    let fields ← Run.popMap
    Run.push (.map (Entries.insert key v fields))
  | .setField => do
    let v ← Run.pop
    let key ← Run.popName
    let c ← Run.popComponent
    Run.push (.component { c with attributes := c.attributes.insert key v.toJson })
  | .keys => do
    match ← Run.pop with
    | .map fields => Run.push (.list (fields.map fun e => .text e.1))
    | .component c => Run.push (.list (c.attributes.keys.map .text))
    | v => Run.invalid (.noKeys v.kind)
  | .values => do
    match ← Run.pop with
    | .map fields => Run.push (.list (fields.map (·.2)))
    | .component c => Run.push (.list (c.attributes.values.map Value.ofJson))
    | v => Run.invalid (.noValues v.kind)
  | .algebra op => do
    let b ← Run.pop
    let a ← Run.pop
    match op.combine? a b with
    | some v => Run.push v
    | none => Run.incompatible a b
  | .noAlgebra => do
    let b ← Run.pop
    let a ← Run.pop
    Run.incompatible a b

end EntityBase.Machine
