import EntityBase.Proofs.Registry.Merge
import EntityBase.Proofs.Store.AddedRows
import EntityBase.Proofs.Store.Regular

/-!
# Batches without fresh ids — adding to a store that holds something

A batch of schemas and of components that name their owners needs no fresh id.
Once its schemas are registered and its components are by registered
definitions, nothing refuses it, and the row at a key is then the last of its
components there, or else what it was (`Overlaid`, `add_placed`).
-/

namespace EntityBase

/-- Components that name their owners keep them. -/
theorem assignComponents_of_owned {components : List Component} {first : Nat}
    {groups : List (List DefId)} (h : ∀ c ∈ components, c.hasEntity = true) :
    assignComponents first groups components = components := by
  induction components with
  | nil => rfl
  | cons c rest ih =>
    rw [assignComponents, if_pos (h c (List.mem_cons_self ..)),
      ih fun c hc => h c (List.mem_cons_of_mem _ hc)]

theorem looseGroups_of_owned {components : List Component} {groups : List (List DefId)}
    (h : ∀ c ∈ components, c.hasEntity = true) : looseGroups groups components = groups := by
  have hnone : components.filter (fun c => !c.hasEntity) = [] :=
    List.filter_eq_nil_iff.2 fun c hc => by simp [h c hc]
  rw [looseGroups, hnone]
  rfl

/-- No component has the key. -/
theorem lastAt_eq_none_iff {id : ComponentId} {components : List Component} :
    lastAt id components = none ↔ ∀ c ∈ components, c.id ≠ id := by
  simp [lastAt]

/-- Where keys are distinct, a component is the last one at its own. -/
theorem lastAt_of_unique {components : List Component} {c : Component} (hc : c ∈ components)
    (h : ∀ c' ∈ components, c'.id = c.id → c' = c) : lastAt c.id components = some c := by
  cases hlast : lastAt c.id components with
  | none => exact absurd rfl (lastAt_eq_none_iff.1 hlast c hc)
  | some c' =>
    have hmem := List.mem_filter.1 (List.mem_of_getLast? hlast)
    rw [h c' hmem.1 (by simpa using hmem.2)]

/-- Where rows stand at their own keys, the values of a table are those it holds. -/
theorem mem_values_iff {rows : Table ComponentId Component} {c : Component}
    (h : ∀ id c, rows.get? id = some c → c.id = id) :
    c ∈ rows.values ↔ rows.get? c.id = some c := by
  constructor
  · intro hc
    obtain ⟨⟨id, c⟩, hrow, rfl⟩ := List.mem_map.1 hc
    have hget := Table.mem_entries_iff.1 hrow
    rwa [h id c hget]
  · exact fun hget => List.mem_map.2 ⟨(c.id, c), Table.mem_entries_iff.2 hget, rfl⟩

/-- Of the rows of a table, the one at a key is the last one. -/
theorem lastAt_values {rows : Table ComponentId Component} (id : ComponentId)
    (h : ∀ id c, rows.get? id = some c → c.id = id) : lastAt id rows.values = rows.get? id := by
  cases hget : rows.get? id with
  | none =>
    refine lastAt_eq_none_iff.2 fun c hc heq => ?_
    rw [← heq, (mem_values_iff h).1 hc] at hget
    cases hget
  | some c =>
    obtain rfl := h id c hget
    refine lastAt_of_unique ((mem_values_iff h).2 hget) fun c' hc' heq => ?_
    rw [← heq, (mem_values_iff h).1 hc'] at hget
    exact Option.some.inj hget

namespace Store

variable {s t : Store} {item : Item} {r : Registry} {written : List Component}
  {id : ComponentId} {c : Component}

/-- Whether a store holds what another one does with some components written over it:
at each key the last one of them, and where there is none what was there. -/
def Overlaid (s : Store) (written : List Component) (t : Store) : Prop :=
  ∀ id, t.component? id =
    match lastAt id written with
    | some c => some (rowAfter (s.component? id) c)
    | none => s.component? id

theorem Overlaid.of_some (h : Overlaid s written t) (hlast : lastAt id written = some c) :
    t.component? id = some (rowAfter (s.component? id) c) := by
  rw [h id, hlast]

theorem Overlaid.of_none (h : Overlaid s written t) (hlast : lastAt id written = none) :
    t.component? id = s.component? id := by
  rw [h id, hlast]

theorem overlaid_nil (s : Store) : Overlaid s [] s := fun _ => rfl

theorem Aligned.mem_componentList_iff (hs : s.Aligned) :
    c ∈ s.componentList ↔ s.component? c.id = some c :=
  mem_values_iff fun id c hc => (hs.row id c hc).keyed

/-- **A batch that needs no fresh id** is added once its schemas are registered and
its components are by registered definitions. -/
theorem add_placed (options : CallOptions) (hcap : Capped s.nextEntity)
    (hentities : item.batch.entities = [])
    (howned : ∀ c ∈ item.batch.components, c.hasEntity = true)
    (hschemas : registerAll s.shadowing s.registry item.batch.schemas = .ok r)
    (hregistered : ∀ c ∈ item.batch.components, (r.byId? c.defId).isSome) :
    ∃ t, s.add item options = .ok t ∧ t.registry = r ∧ Overlaid s item.batch.components t := by
  have hplan : ∃ p, s.plan r item.batch = .ok p := by
    refine ⟨_, (plan_eq_ok_iff hcap).2 ⟨?_, ?_, rfl⟩⟩
    · rw [Batch.parts, hentities]
      exact hregistered
    · rw [Batch.freshCount, hentities, looseGroups_of_owned howned]
      exact Nat.zero_le _
  obtain ⟨p, hp⟩ := hplan
  refine ⟨_, add_of_plan options hschemas hp, registry_eq_of_header (header_apply p _),
    fun id => ?_⟩
  have hrow := components_apply_plan hcap hp (components_opened s options r) id
  have hsupplied : item.batch.supplied (s.firstFresh item.batch) = item.batch.components := by
    rw [Batch.supplied, Batch.placedEntities, hentities]
    exact assignComponents_of_owned howned
  rw [hsupplied] at hrow
  refine hrow.trans ?_
  -- no entity of the batch replaces a row
  cases lastAt id item.batch.components with
  | some c => rfl
  | none =>
    have hnoEntity : ¬ ∃ e ∈ item.batch.placedEntities (s.firstFresh item.batch), e.id = id.entity := by
      rw [Batch.placedEntities, hentities]
      rintro ⟨e, he, -⟩
      cases he
    exact if_neg hnoEntity

/-- A schema that is registered leaves the rows as they are. -/
theorem add_schema (hcap : Capped s.nextEntity) {schema : Schema} {outcome : Registration}
    (h : s.registry.register schema s.shadowing = .ok (r, outcome)) :
    ∃ t, s.add (.schema schema) {} = .ok t ∧ t.registry = r ∧ t.components = s.components := by
  have hschemas : registerAll s.shadowing s.registry (Item.batch (.schema schema)).schemas
      = .ok r := by
    change registerAll s.shadowing s.registry [schema] = .ok r
    rw [registerAll_cons, h]
    rfl
  obtain ⟨t, hadd, hregistry, hrow⟩ := add_placed {} hcap rfl
    (fun _ hc => absurd hc List.not_mem_nil) hschemas fun _ hc => absurd hc List.not_mem_nil
  exact ⟨t, hadd, hregistry, Table.ext_get? hrow⟩

/-- The batch of a list of components. -/
theorem batch_components (components : List Component) :
    Item.batch (.many (components.map .component)) = { components } := by
  change Item.batchAll (components.map .component) = { components }
  induction components with
  | nil => rfl
  | cons c rest ih =>
    rw [List.map_cons, Item.batchAll, ih]
    rfl

/-- Components that name their owners go to the rows of their keys. -/
theorem add_components (hcap : Capped s.nextEntity) {components : List Component}
    (h : ∀ c ∈ components, c.entity ≠ unassigned ∧ (s.registry.byId? c.defId).isSome) :
    ∃ t, s.add (.many (components.map .component)) {} = .ok t ∧ t.registry = s.registry ∧
      Overlaid s components t := by
  have hbatch := batch_components components
  have hschemas : registerAll s.shadowing s.registry
      (Item.batch (.many (components.map .component))).schemas = .ok s.registry := by
    rw [hbatch]
    rfl
  have howned : ∀ c ∈ (Item.batch (.many (components.map .component))).components,
      c.hasEntity = true := by
    rw [hbatch]
    intro c hc
    simpa [Component.hasEntity] using (h c hc).1
  have hregistered : ∀ c ∈ (Item.batch (.many (components.map .component))).components,
      (s.registry.byId? c.defId).isSome := by
    rw [hbatch]
    exact fun c hc => (h c hc).2
  obtain ⟨t, hadd, hregistry, hrow⟩ :=
    add_placed {} hcap (by rw [hbatch]) howned hschemas hregistered
  rw [hbatch] at hrow
  exact ⟨t, hadd, hregistry, hrow⟩

end Store

end EntityBase
