import EntityBase.Store.Basic

/-!
# Removals

A removal takes rows away, clears their bits, and then prunes every
entity that lost its last row. Rows that are not there are passed over.
An entity that lost a row and still has others is updated.
-/

namespace EntityBase.Store

/-- How a call on a store is carried out. -/
structure CallOptions where
  /-- keep the changes of the calls before -/
  retain : Bool := false
  /-- report every single change -/
  debug : Bool := false

/-- The store as a call finds it: the earlier changes are forgotten unless
they are to be kept. -/
def opened (s : Store) (options : CallOptions) : Store :=
  if options.retain then s else s.clearChanges

/-- Takes one row away and clears its bit. -/
def dropRow (s : Store) (id : ComponentId) : Store :=
  if s.components.contains id then
    { s with
      components := s.components.erase id
      changes := { s.changes with components := s.changes.components.remove id }
      entities := match s.entities.get? id.entity with
        | some shape => s.entities.insert id.entity (shape.erase id.defId)
        | none => s.entities }
  else s

/-- Settles an entity that lost a row: without any it goes. -/
def settle (s : Store) (id : EntityId) : Store :=
  match s.entities.get? id with
  | some shape =>
    if shape.isEmpty then
      { s with
        entities := s.entities.erase id
        changes := { s.changes with entities := s.changes.entities.remove id } }
    else { s with changes := { s.changes with entities := s.changes.entities.update id } }
  | none => { s with changes := { s.changes with entities := s.changes.entities.update id } }

/-- A list of keys as a set. -/
def keySet {κ : Type} [Ord κ] [Std.TransOrd κ] [Std.LawfulEqOrd κ] (keys : List κ) : KeySet κ :=
  Table.ofList (keys.map fun k => (k, ()))

/-- The entities that own some of the given rows in this store. -/
def ownersOf (s : Store) (rows : List ComponentId) : List EntityId :=
  (keySet ((rows.filter s.components.contains).map (·.entity))).keys

/-- Takes a set of rows away and settles their owners. -/
def dropRows (s : Store) (rows : KeySet ComponentId) : Store :=
  (s.ownersOf rows.keys).foldl settle (rows.keys.foldl dropRow s)

/-- Removes the named rows. -/
def removeComponents (s : Store) (ids : List ComponentId) (options : CallOptions) : Store :=
  (s.opened options).dropRows (keySet ids)

/-- The rows of the named entities. -/
def rowsOfAll (s : Store) (ids : List EntityId) : KeySet ComponentId :=
  keySet (ids.flatMap fun id => (s.rowsOf id).map (·.1))

/-- Removes the named entities with all of their rows. -/
def removeEntities (s : Store) (ids : List EntityId) (options : CallOptions) : Store :=
  (s.opened options).dropRows (s.rowsOfAll ids)

end EntityBase.Store
