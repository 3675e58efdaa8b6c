import EntityBase.Building
import EntityBase.Machine.Basic

/-!
# Words that build things of the store or use the store

Adding and removing leave the entity set on the stack, so that such words
follow one another; a word that fetches takes it away.
-/

namespace EntityBase.Machine

/-- Adds a value to the store. -/
def runAdd : Run Unit := do
  let v ← Run.pop
  Run.popEntitySet
  let store ← Run.store
  let item ← Run.ofExcept (store.toItem v)
  Run.notify (store.addReport item {})
  let _ ← Run.onStore (Store.addInPlace item {})
  Run.push .entitySet

/-- Removes what a value names: components first, then entities. -/
def runRemove : Run Unit := do
  let v ← Run.pop
  Run.popEntitySet
  let store ← Run.store
  let targets ← Run.ofExcept (Value.toTargets {} v)
  Run.notify (store.removeComponentsReport targets.components {})
  let store := store.removeComponents targets.components {}
  Run.notify (store.removeEntitiesReport targets.entities { retain := true })
  Run.setStore (store.removeEntities targets.entities { retain := true })
  Run.push .entitySet

/-- Attaches components to an entity value. -/
def attachAll (e : Entity) : List Value → Run Entity
  | [] => pure e
  | .component c :: rest => attachAll (e.attach c) rest
  | v :: _ => Run.invalid (.expected .component v.kind)

/-- The items of a list, or the value alone. -/
def itemsOf : Value → List Value
  | .list items => items
  | v => [v]

/-- Builds a bitfield. A store is needed only where definitions are named. -/
def runBuildBitfield : Run Unit := do
  let v ← Run.pop
  let parts ← Run.ofExcept ((itemsOf v).foldlM MaskParts.read {})
  if parts.all then Run.push (.bitfield .universal)
  else if parts.idents.isEmpty then Run.push (.bitfield { Bitfield.empty with mode := parts.mode })
  else
    let store ← Run.store
    let strict := (← Run.env).limits.strictDefs
    Run.push (.bitfield (← Run.ofExcept (parts.resolve store strict)))

/-- The path of the attribute that a value describes. -/
def attrPath : Value → Except Objection String
  | .list [uri, pointer] =>
    match uri.name?, pointer.name? with
    | some uri, some pointer =>
      .ok (uri ++ "#" ++ String.ofList (pointer.toList.dropWhile (· == '#')))
    | _, _ => .error (.complaint .attrNeedsPair)
  | .list _ => .error (.complaint .attrNeedsPair)
  | .scalar s =>
    match s.name? with
    | some path => .ok path
    | none => .error (.complaint .attrNeedsPath)
  | v => .error (.complaint (.noAttrFrom v.kind))

/-- The entity with the id that a value is, or `nil`. -/
def fetchEntity (s : Store) (v : Value) : Value :=
  match v.entityId?.bind fun id => s.entity? id .all with
  | some e => .entity e
  | none => Value.nil

/-- The component of an entity value by the definition that a value
identifies. A number identifies without a store. -/
def runGetComponent : Run Unit := do
  let ident ← Run.pop
  let e ← Run.popEntity
  let d? ← match ident.toInt? with
    | some n => pure (DefId.ofInt? n)
    | none => do
      let store ← Run.store
      pure ((store.identified? ident).map (·.id))
  match d?.bind fun d => e.component? d with
  | some c => Run.push (.component c)
  | none => Run.push Value.nil

/-- What the word does. -/
def runStoreWord : StoreWord → Run Unit
  | .entitySet => do
    let _ ← Run.store
    Run.push .entitySet
  | .definitions => do
    Run.popEntitySet
    Run.push (.list ((← Run.store).registry.toList.map .definition))
  | .buildDefinition => do
    let schema ← Run.ofExcept (← Run.pop).toSchema
    Run.push (.definition (schema.define 0))
  | .buildComponents => do
    let store ← Run.store
    match ← Run.pop with
    | .list items =>
      let components ← Run.ofExcept (items.mapM store.toComponent)
      Run.push (.list (components.map .component))
    | v => Run.push (.component (← Run.ofExcept (store.toComponent v)))
  | .buildEntity => do
    Run.push (.entity (← Run.ofExcept (← Run.pop).toEntity))
  | .buildBitfield => runBuildBitfield
  | .buildAttrOfMask => do
    let pointer ← Run.popName
    let mask ← Run.popBitfield
    Run.push (.attr ⟨mask, pointer⟩)
  | .buildAttr => do
    let path ← Run.ofExcept (attrPath (← Run.pop))
    Run.push (.attr (← Run.attrOf path))
  | .add => runAdd
  | .attach => do
    let v ← Run.pop
    let e ← Run.popEntity
    Run.push (.entity (← attachAll e (itemsOf v)))
  | .remove => runRemove
  | .getEntity => do
    let target ← Run.pop
    Run.popEntitySet
    let store ← Run.store
    match target with
    | .list ids => Run.push (.list (ids.map (fetchEntity store)))
    | v => Run.push (fetchEntity store v)
  | .getComponent => runGetComponent

end EntityBase.Machine
