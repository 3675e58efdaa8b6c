import EntityBase.Proofs.Store.Merge

/-!
# Copies of a store — adding everything again

A store without rows takes schemas one by one and then the rows of another
store as one batch. The rows name their owners, so planning gives none of
them another one, and the batch writes exactly these rows
(`add_components_bare`).
-/

namespace EntityBase.Store

variable {shadowing : Bool} {r r' : Registry}

theorem plainShapes_bare (shadowing : Bool) (r : Registry) : (bare shadowing r).PlainShapes := by
  intro e shape hshape
  cases hshape

/-- Adding a schema to a store without rows registers it and does nothing else. -/
theorem add_schema_bare {schema : Schema} {outcome : Registration}
    (h : r.register schema shadowing = .ok (r', outcome)) :
    (bare shadowing r).add (.schema schema) {} = .ok (bare shadowing r') := by
  have hregister : registerAll (bare shadowing r).shadowing (bare shadowing r).registry
      (Item.batch (.schema schema)).schemas = .ok r' := by
    change registerAll shadowing r [schema] = .ok r'
    rw [registerAll_cons, h]
    rfl
  rw [add_eq, hregister]
  rfl

/-- **The rows of a store, added as one batch** to definitions that know theirs,
are the rows again. -/
theorem add_components_bare {rows : Table ComponentId Component}
    (h : ∀ id c, rows.get? id = some c →
      c.id = id ∧ c.entity ≠ unassigned ∧ (r.byId? c.defId).isSome) :
    ∃ t, (bare shadowing r).add (.many (rows.values.map .component)) {} = .ok t ∧
      t.components = rows ∧ t.registry = r := by
  have hplaced : ∀ c ∈ rows.values, c.entity ≠ unassigned ∧ (r.byId? c.defId).isSome := by
    intro c hc
    obtain ⟨⟨id, c⟩, hrow, rfl⟩ := List.mem_map.1 hc
    exact (h id c (Table.mem_entries_iff.1 hrow)).2
  obtain ⟨t, hadd, hregistry, hrow⟩ :=
    add_components (consistent_bare shadowing r).capped hplaced
  refine ⟨t, hadd, Table.ext_get? fun id => ?_, hregistry⟩
  have hrow : t.components.get? id = _ := hrow id
  rw [hrow, lastAt_values id fun id c hc => (h id c hc).1]
  -- no row is there yet
  cases rows.get? id <;> rfl

end EntityBase.Store
