import EntityBase.ChangeSet
import EntityBase.Component
import EntityBase.Registry

/-!
# The store — shapes, rows and what happened to them

A store keeps a registry of definitions, the shape of every entity, a
table of component rows, the next free entity id and the change sets of
the calls since these were last emptied. An entity is stored as long as it
has a row: its shape has a bit for each of its rows, and no shape is
empty.

This module holds the data and the reads. Additions and removals are in
modules of their own.
-/

namespace EntityBase

/-- A set of entities over a registry of definitions. -/
structure Store where
  /-- whether new content may take over a known uri -/
  shadowing : Bool := true
  registry : Registry := .empty
  entities : Table EntityId Bitfield := ∅
  components : Table ComponentId Component := ∅
  changes : Changes := .none
  /-- the next id to give away; nothing once the greatest one was given -/
  nextEntity : Option EntityId := some 1
deriving Inhabited

namespace Store

/-- The store without definitions and entities. -/
def empty (shadowing : Bool) : Store := { shadowing }

/-- The definition that an identifier names. -/
def definition? (s : Store) (ident : DefIdent) : Option Definition := s.registry.find? ident

/-- The bitfield of the named definitions. -/
def resolve (s : Store) (strict : Bool) (idents : List DefIdent) : Except StoreError Bitfield :=
  s.registry.resolve strict idents

/-- The shape of a stored entity. -/
def shape? (s : Store) (id : EntityId) : Option Bitfield := s.entities.get? id

/-- A stored component. -/
def component? (s : Store) (id : ComponentId) : Option Component := s.components.get? id

/-- The rows of one entity, in the order of their definitions. -/
def rowsOf (s : Store) (id : EntityId) : List (ComponentId × Component) :=
  s.components.entries.filter fun e => e.1.entity == id

/-- A stored entity with the wanted components. -/
def entity? (s : Store) (id : EntityId) (populate : Populate) : Option Entity :=
  (s.shape? id).map fun shape =>
    { id
      shape
      components := Table.ofList
        (((s.rowsOf id).filter fun e => populate.includes e.1.defId).map fun e => (e.1.defId, e.2)) }

/-- The stored entity ids, increasing. -/
def entityIds (s : Store) : List EntityId := s.entities.keys

/-- The stored components, in the order of their keys. -/
def componentList (s : Store) : List Component := s.components.values

/-- The number of stored entities. -/
def entityCount (s : Store) : Nat := s.entities.size

/-- The number of stored components. -/
def componentCount (s : Store) : Nat := s.components.size

/-- Whether no entity is stored. -/
def isEmpty (s : Store) : Bool := s.entityCount == 0

/-- Makes a call on the registry of a store. -/
def onRegistry {α : Type} (m : Update Registry α) : Update Store α := fun s =>
  match m.run s.registry with
  | .ok a registry => .ok a { s with registry }
  | .error e registry => .error e { s with registry }

/-- Registers a schema outside any batch, in place. -/
def registerInPlace (schema : Schema) : Update Store Registration := do
  onRegistry (Registry.registerInPlace schema (← get).shadowing)

/-- The store with a schema registered, and what the registration came to. -/
def register (s : Store) (schema : Schema) : Except StoreError (Store × Registration) :=
  (registerInPlace schema).result s

/-- Forgets what happened so far. -/
def clearChanges (s : Store) : Store := { s with changes := .none }

/-- What a copy of a store takes along. -/
structure CloneOptions where
  entities : Bool := true
  definitions : Bool := true

/-- A copy without changes. Entities bring their definitions with them. -/
def clone (s : Store) (options : CloneOptions) : Store :=
  let base : Store := empty s.shadowing
  let base := if options.definitions || options.entities then
    { base with registry := s.registry } else base
  if options.entities then
    { base with
      entities := s.entities, components := s.components, nextEntity := s.nextEntity }
  else base

end Store

end EntityBase
