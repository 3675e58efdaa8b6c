import EntityBase.Store.Remove

/-!
# Additions — one batch, planned and then applied

An addition takes any nesting of schemas, entities and components as one
batch. Its schemas are registered first, in a copy of the registry that is
dropped again if the batch fails. Then a **plan** is made: rows to write, rows to
take away and the next free entity id. The store is written to only when
the plan has succeeded.

An entity in a batch replaces all of its rows. Components without an
owner gather on one fresh entity until a definition repeats, which starts
the next one. A row whose content is there already is left alone and
reported nowhere.
-/

namespace EntityBase

/-- What can be added to a store. -/
inductive Item where
  | schema (s : Schema)
  | entity (e : Entity)
  | component (c : Component)
  | many (items : List Item)
deriving Inhabited

/-- The parts of an item, each kind in the order in which it occurs. -/
structure Batch where
  schemas : List Schema := []
  entities : List Entity := []
  components : List Component := []

/-- One batch after another. -/
def Batch.append (a b : Batch) : Batch :=
  { schemas := a.schemas ++ b.schemas
    entities := a.entities ++ b.entities
    components := a.components ++ b.components }

mutual

/-- An item taken apart. -/
def Item.batch : Item → Batch
  | .schema s => { schemas := [s] }
  | .entity e => { entities := [e] }
  | .component c => { components := [c] }
  | .many items => Item.batchAll items

/-- Items taken apart, one after another. -/
def Item.batchAll : List Item → Batch
  | [] => {}
  | item :: rest => item.batch.append (Item.batchAll rest)

end

namespace Store

/-- The registry with schemas registered in order. -/
def registerAll (shadowing : Bool) (r : Registry) (schemas : List Schema) :
    Except StoreError Registry :=
  (Registry.registerAllInPlace shadowing schemas).outcome r

/-- What a batch comes to, before anything is written. -/
structure Plan where
  upserts : Table ComponentId Component := ∅
  removals : KeySet ComponentId := ∅
  nextEntity : Option EntityId

namespace Plan

/-- The id after `id`, if there is one. -/
def after? (id : EntityId) : Option EntityId := if id < maxEntityId then some (id + 1) else none

/-- Gives away the next free id. -/
def allocate (p : Plan) : Except StoreError (EntityId × Plan) :=
  match p.nextEntity with
  | some id => .ok (id, { p with nextEntity := after? id })
  | none => .error (.idsExhausted .entity)

/-- Plans to write a component to the row of its key. -/
def write (p : Plan) (c : Component) : Plan := { p with upserts := p.upserts.insert c.id c }

end Plan

/-- The greatest id that a batch names itself. -/
def explicitMax (entities : List Entity) (components : List Component) : EntityId :=
  (entities.map (·.id) ++ components.map (·.entity)).foldl max unassigned

/-- The plan before anything is planned: fresh ids lie past the ones that
the batch names itself. -/
def startPlan (s : Store) (entities : List Entity) (components : List Component) : Plan :=
  { nextEntity := (Plan.after? (explicitMax entities components)).bind fun after =>
      s.nextEntity.map fun next => max next after }

/-- Refuses a component whose definition is not registered. -/
def checkComponent (r : Registry) (c : Component) : Except StoreError Unit :=
  if (r.byId? c.defId).isSome then .ok () else .error (.invalidComponent c.id)

/-- Plans the rows of one entity. -/
def planRows (r : Registry) (id : EntityId) (p : Plan) : List Component → Except StoreError Plan
  | [] => .ok p
  | c :: rest =>
    let c := { c with entity := id }
    match checkComponent r c with
    | .error e => .error e
    | .ok () => planRows r id (p.write c) rest

/-- The id of an entity in a batch: its own, or else the next free one. -/
def Plan.idFor (p : Plan) (e : Entity) : Except StoreError (EntityId × Plan) :=
  if e.id = unassigned then p.allocate else .ok (e.id, p)

/-- Plans to take away every row that an entity has. -/
def Plan.replace (p : Plan) (s : Store) (id : EntityId) : Plan :=
  { p with removals := (s.rowsOf id).foldl (fun set row => set.insert row.1 ()) p.removals }

/-- Plans the entities of a batch: each replaces all of its rows. -/
def planEntities (s : Store) (r : Registry) (p : Plan) : List Entity → Except StoreError Plan
  | [] => .ok p
  | e :: rest =>
    match p.idFor e with
    | .error err => .error err
    | .ok (id, p) =>
      match planRows r id (p.replace s id) e.components.values with
      | .error err => .error err
      | .ok p => planEntities s r p rest

/-- A fresh entity that gathers components without an owner. -/
structure Gathering where
  id : EntityId
  seen : Bitfield

/-- The gathering that takes a component by definition `d`: the current one,
unless it has such a component already, or else one on a fresh id. -/
def Plan.gather (p : Plan) (current : Option Gathering) (d : DefId) :
    Except StoreError (Gathering × Plan) :=
  match current with
  | some g =>
    if g.seen.contains d then
      p.allocate.map fun (id, p) => (⟨id, Bitfield.empty.insert d⟩, p)
    else .ok ({ g with seen := g.seen.insert d }, p)
  | none => p.allocate.map fun (id, p) => (⟨id, Bitfield.empty.insert d⟩, p)

/-- Plans the components of a batch. -/
def planComponents (r : Registry) (p : Plan) (current : Option Gathering) :
    List Component → Except StoreError Plan
  | [] => .ok p
  | c :: rest =>
    match checkComponent r c with
    | .error err => .error err
    | .ok () =>
      if c.hasEntity then planComponents r (p.write c) current rest
      else
        match p.gather current c.defId with
        | .error err => .error err
        | .ok (g, p) => planComponents r (p.write { c with entity := g.id }) (some g) rest

/-- What a batch does to the store, worked out against a registry. A row
that is written is not taken away. -/
def plan (s : Store) (r : Registry) (b : Batch) : Except StoreError Plan :=
  match planEntities s r (s.startPlan b.entities b.components) b.entities with
  | .error err => .error err
  | .ok p =>
    match planComponents r p none b.components with
    | .error err => .error err
    | .ok p => .ok { p with removals := p.upserts.keys.foldl Table.erase p.removals }

/-- Writes one row. -/
def writeRow (s : Store) (id : ComponentId) (c : Component) : Store :=
  match s.components.get? id with
  | some old =>
    if old.sameContent c then s
    else
      { s with
        components := s.components.insert id c
        changes :=
          { components := s.changes.components.update id
            entities := s.changes.entities.update id.entity } }
  | none =>
    { s with
      components := s.components.insert id c
      entities := match s.entities.get? id.entity with
        | some shape => s.entities.insert id.entity (shape.insert id.defId)
        | none => s.entities.insert id.entity (Bitfield.empty.insert id.defId)
      changes :=
        { components := s.changes.components.add id
          entities := match s.entities.get? id.entity with
            | some _ => s.changes.entities.update id.entity
            | none => s.changes.entities.add id.entity } }

/-- Carries out a plan: rows are written first and taken away after. -/
def apply (s : Store) (p : Plan) : Store :=
  let s := { s with nextEntity := p.nextEntity }
  (p.upserts.entries.foldl (fun s row => s.writeRow row.1 row.2) s).dropRows p.removals

/-- Adds an item as one batch, in place, and gives the changes. The schemas go
to a copy of the registry, and the plan is made against that copy. Only then
is the store written to: the earlier changes are forgotten if they are not to
be kept, the copy becomes the registry, and the plan is carried out. -/
def addInPlace (item : Item) (options : CallOptions) : Update Store Changes := do
  let batch := item.batch
  let s ← get
  let staged ← Update.onCopy s.registry (Registry.registerAllInPlace s.shadowing batch.schemas)
  let p ← MonadExcept.ofExcept (s.plan staged batch)
  modify (·.opened options)
  modify fun s => { s with registry := staged }
  modify (·.apply p)
  return (← get).changes

/-- The store with an item added. -/
def add (s : Store) (item : Item) (options : CallOptions) : Except StoreError Store :=
  (addInPlace item options).outcome s

end Store

end EntityBase
