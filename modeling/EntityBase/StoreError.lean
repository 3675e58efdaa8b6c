import EntityBase.Ids

/-!
# Refusals of the store

Every reason for which a call on a registry or a store is refused, and the
wording of each.
-/

namespace EntityBase

/-- The kinds of id that can run out. -/
inductive IdKind where
  | entity
  | definition
deriving DecidableEq, Repr

/-- The name of a kind of id in messages. -/
def IdKind.text : IdKind → String
  | .entity => "entity"
  | .definition => "def"

/-- Why a call on the store is refused. -/
inductive StoreError where
  /-- an identifier names no registered definition -/
  | defNotFound (ident : String)
  /-- the uri has other content already, and shadowing is off -/
  | schemaConflict (uri : String) (existing : DefId)
  /-- a component names a definition that is not registered -/
  | invalidComponent (id : ComponentId)
  /-- every id of the kind is taken -/
  | idsExhausted (kind : IdKind)
deriving DecidableEq, Repr

namespace StoreError

/-- What is wrong with a component of an unknown definition. -/
def unregistered (id : ComponentId) : String := s!"def {id.defId} is not registered"

/-- The wording. -/
def message : StoreError → String
  | .defNotFound ident => s!"Component def not found: {ident}"
  | .schemaConflict uri existing =>
    s!"Schema conflict: {uri} is already registered with different content (def {existing})"
  | .invalidComponent id => s!"Invalid component {id.text}: {unregistered id}"
  | .idsExhausted kind => s!"No free {kind.text} ids left"

end StoreError

end EntityBase
