/-!
# Identifiers — entities, definitions and the rows between them

An entity id is a natural number below `2 ^ 32`; `0` is set aside for
"not yet assigned". A definition id is a natural number below `2 ^ 16`;
definitions are numbered densely from `1`, so their ids double as bit
positions. A component row is keyed by the pair of both, ordered by the
entity first.
-/

namespace EntityBase

/-- An entity id; `0` stands for an entity that has none yet. -/
abbrev EntityId := Nat

/-- A definition id, which is also a bit position. -/
abbrev DefId := Nat

/-- The id of an entity that has none yet. -/
def unassigned : EntityId := 0

/-- The greatest entity id. -/
def maxEntityId : EntityId := 4294967295

/-- The greatest definition id. -/
def maxDefId : DefId := 65535

/-- An integer read as an entity id, if it is one. -/
def EntityId.ofInt? (n : Int) : Option EntityId :=
  if 0 ≤ n ∧ n ≤ maxEntityId then some n.toNat else none

/-- An integer read as a definition id, if it is one. -/
def DefId.ofInt? (n : Int) : Option DefId :=
  if 0 ≤ n ∧ n ≤ maxDefId then some n.toNat else none

/-- The key of a component row: whose it is, and by which definition. -/
structure ComponentId where
  entity : EntityId
  defId : DefId
deriving DecidableEq, Repr, Inhabited

namespace ComponentId

/-- Rows are ordered by entity, and those of one entity by definition. -/
instance : Ord ComponentId :=
  ⟨compareLex (compareOn ComponentId.entity) (compareOn ComponentId.defId)⟩

instance : Std.TransOrd ComponentId :=
  inferInstanceAs (Std.TransCmp (compareLex (compareOn ComponentId.entity) (compareOn ComponentId.defId)))

instance : Std.LawfulEqOrd ComponentId where
  eq_of_compare {a b} h := by
    have h' : compareLex (compareOn ComponentId.entity) (compareOn ComponentId.defId) a b = .eq := h
    rw [compareLex_eq_eq] at h'
    obtain ⟨h1, h2⟩ := h'
    obtain ⟨ea, da⟩ := a
    obtain ⟨eb, db⟩ := b
    have he : ea = eb := Std.LawfulEqCmp.eq_of_compare h1
    have hd : da = db := Std.LawfulEqCmp.eq_of_compare h2
    rw [he, hd]

/-- The key as text, `entity:definition`. -/
def text (id : ComponentId) : String := s!"{id.entity}:{id.defId}"

end ComponentId

end EntityBase
