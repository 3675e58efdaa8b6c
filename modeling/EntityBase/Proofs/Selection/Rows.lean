import EntityBase.Proofs.Selection.Filter

/-!
# What the component readers read

A reader goes through entities and through the rows of each. Where the
entities increase, so do the rows, in the order of their keys; where the
tables agree, the rows are stored components and nothing else. Without
candidates, order and page, the components that are read are therefore the
stored ones that mask and filter ask for, each of them once
(`mem_asked_iff`, `pairwise_asked`).
-/

namespace EntityBase

namespace Store

variable {s : Store} {e : EntityId} {d : DefId} {c : Component}

theorem mem_rowsOf_iff {row : ComponentId × Component} :
    row ∈ s.rowsOf e ↔ s.component? row.1 = some row.2 ∧ row.1.entity = e := by
  rw [rowsOf, List.mem_filter, beq_iff_eq]
  exact and_congr_left fun _ => Table.mem_entries_iff

/-- Two keys of one entity are ordered as their definitions. -/
theorem compare_same_entity {i j : ComponentId} (h : i.entity = j.entity) :
    compare i j = compare i.defId j.defId := by
  change (compare i.entity j.entity).then (compare i.defId j.defId) = _
  rw [Nat.compare_eq_eq.2 h]
  rfl

theorem compare_entity_lt {i j : ComponentId} (h : i.entity < j.entity) : compare i j = .lt := by
  change (compare i.entity j.entity).then (compare i.defId j.defId) = _
  rw [Nat.compare_eq_lt.2 h]
  rfl

/-- A stored entity brings all of its rows, by definition. -/
theorem entries_entity? {ent : Entity} (h : s.entity? e .all = some ent) :
    ent.components.entries = (s.rowsOf e).map fun row => (row.1.defId, row.2) := by
  obtain ⟨shape, -, rfl⟩ := Option.map_eq_some_iff.1 h
  have hall : ((s.rowsOf e).filter fun row => Populate.all.includes row.1.defId) = s.rowsOf e :=
    List.filter_eq_self.2 fun _ _ => rfl
  have hsorted : Entries.Sorted ((s.rowsOf e).map fun row => (row.1.defId, row.2)) := by
    refine List.pairwise_map.2 ?_
    refine List.Pairwise.imp_of_mem ?_ (s.components.sorted.filter fun row => row.1.entity == e)
    intro a b ha hb hlt
    have howner := (mem_rowsOf_iff.1 ha).2.trans (mem_rowsOf_iff.1 hb).2.symm
    exact (compare_same_entity howner).symm.trans hlt
  dsimp only
  rw [hall]
  exact hsorted.ofList_eq fun _ => Iff.rfl

end Store

namespace Selection

variable {s : Store} {mask : Option Bitfield} {filter : Option (Filter Value)} {e : EntityId}
  {c : Component}

/-- Whether mask and filter ask for a component: the mask meets its entity and takes
its definition in, and the filter holds of its entity. -/
def Asks (s : Store) (mask : Option Bitfield) (filter : Option (Filter Value)) (c : Component) :
    Prop :=
  (∀ m ∈ mask, s.Meets m c.entity ∧ (m.all = true ∨ m.contains c.defId = true)) ∧
    ∀ f ∈ filter, f.Holds s c.entity

/-- The components of an entity that a mask takes in. -/
def taken (s : Store) (mask : Option Bitfield) (e : EntityId) : List Component :=
  (rows s mask e).map (·.2)

/-- The components that a reader goes through, entity by entity. -/
def asked (s : Store) (mask : Option Bitfield) (filter : Option (Filter Value)) : List Component :=
  (narrowed s none filter mask).flatMap (taken s mask)

theorem rows_eq (hstored : (s.shape? e).isSome) :
    rows s mask e = ((s.rowsOf e).map fun row => (row.1.defId, row.2)).filter fun row =>
      mask.all fun m => m.all || m.contains row.1 := by
  obtain ⟨shape, hshape⟩ := Option.isSome_iff_exists.1 hstored
  cases hent : s.entity? e .all with
  | none =>
    rw [Store.entity?, hshape] at hent
    cases hent
  | some ent =>
    rw [rows, hent, ← Store.entries_entity? hent]
    cases mask <;> rfl

/-- A row that is read of an entity is its component by the definition of the row. -/
theorem id_of_mem_rows (hs : s.Aligned) {row : DefId × Component} (h : row ∈ rows s mask e) :
    row.2.id = ⟨e, row.1⟩ := by
  cases hshape : s.shape? e with
  | none =>
    unfold rows Store.entity? at h
    rw [hshape] at h
    cases h
  | some shape =>
    rw [rows_eq (by rw [hshape]; rfl)] at h
    obtain ⟨stored, hstored, rfl⟩ := List.mem_map.1 (List.mem_filter.1 h).1
    obtain ⟨hfound, rfl⟩ := Store.mem_rowsOf_iff.1 hstored
    exact (hs.row _ _ hfound).keyed

/-- The rows that a mask takes in of an entity, by their keys. -/
theorem taken_eq (hstored : (s.shape? e).isSome) :
    taken s mask e = ((s.rowsOf e).filter fun row =>
      mask.all fun m => m.all || m.contains row.1.defId).map (·.2) := by
  rw [taken, rows_eq hstored, List.filter_map, List.map_map]
  rfl

theorem mem_taken_iff (hs : s.Aligned) : c ∈ taken s mask e ↔
    s.component? c.id = some c ∧ c.entity = e ∧
      ∀ m ∈ mask, m.all = true ∨ m.contains c.defId = true := by
  have hasks : ∀ d, (mask.all fun m => m.all || m.contains d) = true ↔
      ∀ m ∈ mask, m.all = true ∨ m.contains d = true := by
    intro d
    cases mask <;> simp
  cases hshape : s.shape? e with
  | none =>
    -- nothing is read of an entity that is not stored, and it has no component
    have hrows : taken s mask e = [] := by
      unfold taken rows Store.entity?
      rw [hshape]
      rfl
    rw [hrows]
    refine iff_of_false List.not_mem_nil ?_
    rintro ⟨hc, rfl, -⟩
    obtain ⟨shape, hstored⟩ := hs.shape?_of_carries (e := c.entity) (d := c.defId) (by
      rw [Store.Carries]
      exact Option.isSome_iff_exists.2 ⟨c, hc⟩)
    rw [hshape] at hstored
    cases hstored
  | some shape =>
    rw [taken_eq (by rw [hshape]; rfl), List.mem_map]
    constructor
    · rintro ⟨row, hrow, rfl⟩
      obtain ⟨hrow, hmask⟩ := List.mem_filter.1 hrow
      obtain ⟨hfound, howner⟩ := Store.mem_rowsOf_iff.1 hrow
      have hkeyed := (hs.row _ _ hfound).keyed
      rw [← hkeyed] at hfound howner hmask
      exact ⟨hfound, howner, (hasks _).1 hmask⟩
    · rintro ⟨hc, howner, hmask⟩
      exact ⟨(c.id, c), List.mem_filter.2
        ⟨Store.mem_rowsOf_iff.2 ⟨hc, howner⟩, (hasks _).2 hmask⟩, rfl⟩

/-- The keys of what is read of one entity increase. -/
theorem pairwise_taken (hs : s.Aligned) (mask : Option Bitfield) (e : EntityId) :
    (taken s mask e).Pairwise fun a b => compare a.id b.id = .lt := by
  cases hshape : s.shape? e with
  | none =>
    unfold taken rows Store.entity?
    rw [hshape]
    exact List.Pairwise.nil
  | some shape =>
    rw [taken_eq (by rw [hshape]; rfl), List.pairwise_map]
    have hsorted := (s.components.sorted.filter fun row => row.1.entity == e).filter
      fun row => mask.all fun m => m.all || m.contains row.1.defId
    refine List.Pairwise.imp_of_mem (fun {a b} ha hb hlt => ?_) hsorted
    have hkeyed : ∀ row ∈ (s.rowsOf e).filter fun row =>
        mask.all fun m => m.all || m.contains row.1.defId, row.2.id = row.1 := by
      intro row hrow
      exact (hs.row _ _ (Store.mem_rowsOf_iff.1 (List.mem_filter.1 hrow).1).1).keyed
    rw [hkeyed a ha, hkeyed b hb]
    exact hlt

/-- Without candidates every stored entity is looked at. -/
theorem mem_narrowed_iff (hs : s.Aligned) : e ∈ narrowed s none filter mask ↔
    (s.shape? e).isSome ∧ (∀ m ∈ mask, s.Meets m e) ∧ ∀ f ∈ filter, f.Holds s e := by
  have hshaped : e ∈ shaped s mask s.entityIds ↔ (s.shape? e).isSome ∧ ∀ m ∈ mask, s.Meets m e := by
    rw [shaped, List.mem_filter]
    have hstored : e ∈ s.entityIds ↔ (s.shape? e).isSome := Table.mem_keys_iff
    rw [hstored]
    refine and_congr_right fun h => ?_
    obtain ⟨shape, hshape⟩ := Option.isSome_iff_exists.1 h
    rw [hshape]
    cases mask with
    | none => simp
    | some m => simp [hs.meets_iff hshape]
  unfold narrowed
  cases filter with
  | none => simp [hshaped]
  | some f => simp [Filter.mem_apply_iff hs, hshaped, and_assoc]

theorem pairwise_narrowed (s : Store) (filter : Option (Filter Value)) (mask : Option Bitfield) :
    (narrowed s none filter mask).Pairwise (· < ·) := by
  have hids : s.entityIds.Pairwise (· < ·) :=
    List.pairwise_map.2 (s.entities.sorted.imp fun hlt => Nat.compare_eq_lt.1 hlt)
  have hshaped : (shaped s mask s.entityIds).Pairwise (· < ·) := hids.filter _
  unfold narrowed
  cases filter with
  | none => exact hshaped
  | some f =>
    dsimp only
    rw [Filter.apply_eq_filter]
    exact hshaped.filter _

/-- **Complete and exact.** What is read is stored and asked for, and all of that. -/
theorem mem_asked_iff (hs : s.Aligned) :
    c ∈ asked s mask filter ↔ s.component? c.id = some c ∧ Asks s mask filter c := by
  simp only [asked, List.mem_flatMap, mem_narrowed_iff hs, mem_taken_iff hs]
  constructor
  · rintro ⟨e, ⟨-, hmask, hfilter⟩, hc, rfl, htaken⟩
    exact ⟨hc, fun m hm => ⟨hmask m hm, htaken m hm⟩, hfilter⟩
  · rintro ⟨hc, hmask, hfilter⟩
    obtain ⟨shape, hshape⟩ := hs.shape?_of_carries (e := c.entity) (d := c.defId)
      (Option.isSome_iff_exists.2 ⟨c, hc⟩)
    refine ⟨c.entity, ⟨?_, fun m hm => (hmask m hm).1, hfilter⟩, hc, rfl, fun m hm => (hmask m hm).2⟩
    rw [hshape]
    rfl

/-- **Once each, in the order of the keys.** -/
theorem pairwise_asked (hs : s.Aligned) (mask : Option Bitfield) (filter : Option (Filter Value)) :
    (asked s mask filter).Pairwise fun a b => compare a.id b.id = .lt := by
  rw [asked, List.pairwise_flatMap]
  refine ⟨fun e _ => pairwise_taken hs mask e, (pairwise_narrowed s filter mask).imp ?_⟩
  intro e e' hlt a ha b hb
  obtain ⟨-, rfl, -⟩ := (mem_taken_iff hs).1 ha
  obtain ⟨-, rfl, -⟩ := (mem_taken_iff hs).1 hb
  exact Store.compare_entity_lt hlt

end Selection

end EntityBase
