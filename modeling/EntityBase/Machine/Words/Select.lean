import EntityBase.Building
import EntityBase.Machine.Basic

/-!
# Words of select programs

A comparison with an attribute builds a filter. A reader takes, from the
top, an optional mask, an optional filter and optional candidates, and
leaves what it read. What an operand is, its kind alone decides.
-/

namespace EntityBase.Machine

/-- The settings of the select program that runs. -/
def Run.selection : Run Selection := do
  match (← Run.get).selection with
  | some sel => pure sel
  | none => Run.invalid .outsideSelect

/-- Changes the settings of the select program that runs. -/
def Run.select (f : Selection → Selection) : Run Unit := do
  let sel ← Run.selection
  Run.modify fun s => { s with selection := some (f sel) }

/-- Takes a filter, if one is on top. -/
def Run.popFilter? : Run (Option (Filter Value)) := do
  match ← Run.popIf .filter with
  | some (.filter f) => pure (some f)
  | _ => pure none

/-- Takes a bitfield, if one is on top. -/
def Run.popMask? : Run (Option Bitfield) := do
  match ← Run.popIf .bitfield with
  | some (.bitfield b) => pure (some b)
  | _ => pure none

/-- The entity that a value stands for: an entity value or an id. -/
def candidate? : Value → Option EntityId
  | .entity e => some e.id
  | v => v.entityId?

/-- The candidates that a value stands for: one, or a list of them. -/
def candidates? : Value → Option (List EntityId)
  | .list items => items.mapM candidate?
  | v => (candidate? v).map fun id => [id]

/-- Takes candidates, if some are on top. -/
def Run.popCandidates? : Run (Option (List EntityId)) := fun _ s =>
  match s.frame.items with
  | v :: rest =>
    match candidates? v with
    | some ids => (.ok (some ids), { s with frame := { s.frame with items := rest } })
    | none => (.ok none, s)
  | [] => (.ok none, s)

/-- A comparison of an attribute with an operand, whichever is on top. -/
def runCompare (op : CompareOp) : Run Unit := do
  let top ← Run.pop
  let below ← Run.pop
  match below, top with
  | .attr a, operand => Run.push (.filter (.compare op a operand))
  | operand, .attr a => Run.push (.filter (.compare op a operand))
  | a, b => Run.incompatible a b

/-- Two filters joined. -/
def runJoin (join : Filter Value → Filter Value → Filter Value) : Run Unit := do
  let right ← Run.popFilter?
  let left ← Run.popFilter?
  match left, right with
  | some l, some r => Run.push (.filter (join l r))
  | _, _ => Run.invalid .needsTwoFilters

/-- The order of what is read. -/
def runOrderBy : Run Unit := do
  let direction ← match ← Run.popIf .scalar with
    | some v =>
      match Direction.ofName? (v.name?.getD "") with
      | some d => pure d
      | none => Run.invalid (.unknownDirection v.display)
    | none => pure .ascending
  let attr ← Run.popAttr
  Run.select fun sel => { sel with order := some ⟨attr, direction⟩ }

/-- A number of entities. -/
def pageCount (v : Value) : Run Nat :=
  match v.toInt? with
  | some n => if 0 ≤ n then pure n.toNat else Run.invalid (.badPageCount v.display)
  | none => Run.invalid (.badPageCount v.display)

/-- The page of what is read: a number, or an offset and a number. -/
def runLimit : Run Unit := do
  let (offset, limit) ← match ← Run.pop with
    | .list [offset, limit] => do
      let offset ← pageCount offset
      let limit ← pageCount limit
      pure (offset, limit)
    | .list _ => Run.invalid .limitNeedsPair
    | v => do
      let limit ← pageCount v
      pure (0, limit)
  Run.select fun sel => { sel with offset, limit := some limit }

/-- Reads entities or what belongs to them. -/
def runRead (reader : Reader) : Run Unit := do
  let mask ← Run.popMask?
  let filter ← Run.popFilter?
  let candidates ← Run.popCandidates?
  Run.select fun sel => { sel with read := true }
  let sel ← Run.selection
  Run.push (sel.readAll (← Run.store) reader candidates filter mask)

/-- Reads the values of an attribute. -/
def runReadField : Run Unit := do
  let attr ← Run.popAttr
  let filter ← Run.popFilter?
  let candidates ← Run.popCandidates?
  Run.select fun sel => { sel with read := true }
  let sel ← Run.selection
  Run.push (sel.readField (← Run.store) attr candidates filter)

/-- Leaves the candidates that pass a filter, neither ordered nor paged. -/
def runNarrow : Run Unit := do
  let filter ← Run.popFilter?
  let candidates ← Run.popCandidates?
  let _ ← Run.selection
  let ids := Selection.narrowed (← Run.store) candidates filter none
  Run.push (.list (ids.map fun (id : EntityId) => .int id))

/-- What the word does. -/
def runSelectWord : SelectWord → Run Unit
  | .compare op => runCompare op
  | .and => runJoin .and
  | .or => runJoin .or
  | .order => runOrderBy
  | .limit => runLimit
  | .count => Run.select fun sel => { sel with count := true }
  | .read reader => runRead reader
  | .readField => runReadField
  | .narrow => runNarrow

end EntityBase.Machine
