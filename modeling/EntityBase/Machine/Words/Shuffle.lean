import EntityBase.Machine.Basic

/-!
# Words that move items about
-/

namespace EntityBase.Machine

/-- The size of a value that has one: items, keys, characters, entities. -/
def sizeOf (v : Value) : Run Nat := do
  match v with
  | .list items => pure items.length
  | .map fields => pure fields.length
  | .scalar (.text s) => pure s.length
  | .entitySet => pure (← Run.store).entityCount
  | v => Run.invalid (.noSize v.kind)

/-- What the word does. -/
def runShuffle : ShuffleWord → Run Unit
  | .drop => do
    let _ ← Run.pop
  | .last => do
    let items ← Run.popList
    Run.push (items.getLast?.getD Value.nil)
  | .dup => do
    let v ← Run.pop
    Run.push v
    Run.push v
  | .swap => do
    let b ← Run.pop
    let a ← Run.pop
    Run.push b
    Run.push a
  | .rot => do
    let c ← Run.pop
    let b ← Run.pop
    let a ← Run.pop
    Run.push b
    Run.push c
    Run.push a
  | .over => do
    let b ← Run.pop
    let a ← Run.pop
    Run.push a
    Run.push b
    Run.push a
  | .clear => Run.modifyItems fun _ => []
  | .gather => Run.modifyItems fun items => [.list items.reverse]
  | .size => do
    let v ← Run.pop
    Run.push (.int (← sizeOf v))

end EntityBase.Machine
