import EntityBase.Bitfield
import EntityBase.Json.Pointer
import EntityBase.Schema

/-!
# Components and entities

A component is an open record of fields that belongs to one entity by one
definition. An entity value is an id, a shape and some or all of the
components. Crossing a text boundary, a component becomes a **record**:
its fields with four reserved ones that say whose it is and by which
definition.
-/

namespace EntityBase

/-- The reserved field of the owning entity. -/
def entityField : String := "@e"

/-- The reserved field of the definition id. -/
def defIdField : String := "@d"

/-- The reserved field of the definition uri. -/
def defUriField : String := "@du"

/-- The reserved field of the definition hash. -/
def defHashField : String := "@dh"

/-- A record of fields that belongs to one entity by one definition. -/
structure Component where
  entity : EntityId := unassigned
  defId : DefId
  attributes : Table String Json := ∅
deriving Inhabited

namespace Component

/-- The key of the component. -/
def id (c : Component) : ComponentId := ⟨c.entity, c.defId⟩

/-- Whether the component belongs to an entity yet. -/
def hasEntity (c : Component) : Bool := c.entity != unassigned

/-- The fields as one stored value. -/
def object (c : Component) : Json := .object c.attributes.entries

/-- Whether two components hold the same fields by the same definition,
whosever they are. -/
def sameContent (a b : Component) : Bool :=
  a.defId == b.defId && Json.sameFields a.attributes.entries b.attributes.entries

/-- Equality of components, owners included. -/
def same (a b : Component) : Bool := a.entity == b.entity && a.sameContent b

/-- The value at a pointer or in a named field. Number signs in front are
dropped. Behind a slash the first segment is the plain name of a field,
and what follows is a pointer into its value. -/
def pointer? (c : Component) (pointer : String) : Option Json :=
  match pointer.toList.dropWhile (· == '#') with
  | '/' :: path =>
    let head := path.takeWhile (· != '/')
    (c.attributes.get? (String.ofList head)).bind fun value =>
      value.pointer? (path.drop head.length)
  | name => c.attributes.get? (String.ofList name)

/-- The component as a record; its own fields win over the reserved ones. -/
def record (c : Component) (d? : Option Definition) : Table String Json :=
  let owner := if c.hasEntity then [(entityField, Json.int c.entity)] else []
  let definition := match d? with
    | some d => [(defUriField, Json.string d.uri), (defHashField, Json.string d.hash)]
    | none => []
  Table.ofList (owner ++ (defIdField, .int c.defId) :: definition ++ c.attributes.entries)

end Component

/-- Which components to fetch with an entity. -/
inductive Populate where
  | none
  | all
  | only (mask : Bitfield)
deriving DecidableEq, Repr

/-- Whether a component by definition `d` is fetched. -/
def Populate.includes (p : Populate) (d : DefId) : Bool :=
  match p with
  | .none => false
  | .all => true
  | .only mask => mask.all || mask.contains d

/-- An entity value. A fetched one may hold fewer components than its shape
says. -/
structure Entity where
  id : EntityId := unassigned
  shape : Bitfield := .empty
  components : Table DefId Component := ∅
deriving Inhabited

namespace Entity

/-- Attaches a component, in place of one by the same definition. -/
def attach (e : Entity) (c : Component) : Entity :=
  { e with
    shape := e.shape.insert c.defId
    components := e.components.insert c.defId { c with entity := e.id } }

/-- Detaches the component by a definition. -/
def detach (e : Entity) (d : DefId) : Entity :=
  { e with shape := e.shape.erase d, components := e.components.erase d }

/-- The component by a definition. -/
def component? (e : Entity) (d : DefId) : Option Component := e.components.get? d

/-- The number of definitions in the shape. -/
def size (e : Entity) : Nat := e.shape.size

/-- Moves the entity and its components to another id. -/
def withId (e : Entity) (id : EntityId) : Entity :=
  { e with
    id
    components :=
      { entries := e.components.entries.map fun (d, c) => (d, { c with entity := id })
        sorted := by
          have h := e.components.sorted
          unfold Entries.Sorted at h ⊢
          rw [List.pairwise_map]
          exact h } }

/-- Equality of lists of components. -/
def sameComponents : List (DefId × Component) → List (DefId × Component) → Bool
  | [], [] => true
  | (i, a) :: as, (j, b) :: bs => i == j && a.same b && sameComponents as bs
  | _, _ => false

/-- Equality of entity values. -/
def same (a b : Entity) : Bool :=
  a.id == b.id && a.shape.same b.shape &&
    sameComponents a.components.entries b.components.entries

end Entity

end EntityBase
