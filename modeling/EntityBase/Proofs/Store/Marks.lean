import EntityBase.Proofs.ChangeSet
import EntityBase.Proofs.Store.Consistent

/-!
# Marks — the changes of a store as differences of its tables

A store is `Tracked` from an earlier one when every mark tells the
difference between the two, for components by their rows and for entities
by all the rows of one entity. Writing a row and dropping a set of rows keep
this, whatever happened in between, and so every editing call does.

The other direction, that nothing is marked without need, holds within one
call only: a row that a later call puts back stays marked. `Grounded` says
that every updated key differs, and a call that touches each row at most
once keeps it.
-/

namespace EntityBase.Store

open ChangeSet

variable {s s₀ t : Store} {id : ComponentId} {c : Component} {e : EntityId}

/-- All rows of one entity. -/
def rowsAt (s : Store) (e : EntityId) : DefId → Option Component :=
  fun d => s.components.get? ⟨e, d⟩

/-- The rows of an entity that is not stored. -/
def noRows : DefId → Option Component := fun _ => none

/-- An entity with a row has not no rows. -/
theorem rowsAt_ne_noRows (h : s.components.get? id = some c) : s.rowsAt id.entity ≠ noRows := by
  intro hnone
  have hrow : s.components.get? id = none := congrFun hnone id.defId
  rw [hrow] at h
  cases h

/-- An entity is stored exactly when it has rows. -/
theorem Consistent.rowsAt_eq_noRows_iff (hs : s.Consistent) :
    s.rowsAt e = noRows ↔ s.entities.get? e = none := by
  rw [← Option.not_isSome_iff_eq_none, hs.isSome_entities_iff]
  constructor
  · rintro hnone ⟨d, hd⟩
    have hrow : s.components.get? ⟨e, d⟩ = none := congrFun hnone d
    rw [hrow] at hd
    cases hd
  · intro h
    funext d
    exact Option.not_isSome_iff_eq_none.1 fun hd => h ⟨d, hd⟩

/-! ## What the moves mark -/

/-- **Every write**: a row of the same content stays, another one is updated,
and a row that was not there is added, with its owner or to it. -/
theorem writeRow_cases (s : Store) (id : ComponentId) (c : Component) :
    (s.writeRow id c = s ∧ ∃ old, s.components.get? id = some old) ∨
    (∃ old, s.components.get? id = some old ∧ old.sameContent c = false ∧
      (s.writeRow id c).components.get? id = some c ∧
      (s.writeRow id c).changes = ⟨s.changes.entities.update id.entity,
        s.changes.components.update id⟩) ∨
    (s.components.get? id = none ∧ (s.writeRow id c).components.get? id = some c ∧
      (s.writeRow id c).changes = ⟨if (s.entities.get? id.entity).isSome
          then s.changes.entities.update id.entity else s.changes.entities.add id.entity,
        s.changes.components.add id⟩) := by
  unfold writeRow
  cases hrow : s.components.get? id with
  | some old =>
    cases hsame : old.sameContent c with
    | true => exact Or.inl ⟨by simp [hsame], old, rfl⟩
    | false => exact Or.inr (Or.inl ⟨old, rfl, hsame, by simp [hsame], by simp [hsame]⟩)
  | none =>
    refine Or.inr (Or.inr ⟨rfl, by simp, ?_⟩)
    cases hshape : s.entities.get? id.entity <;> simp

/-- A write marks no other row. -/
theorem componentMark_writeRow_of_ne {j : ComponentId} (h : j ≠ id) :
    (s.writeRow id c).changes.components.get? j = s.changes.components.get? j := by
  rcases writeRow_cases s id c with ⟨heq, -⟩ | ⟨-, -, -, -, hchanges⟩ | ⟨-, -, hchanges⟩
  · rw [heq]
  · rw [hchanges]
    exact get?_update_of_ne _ h
  · rw [hchanges]
    exact get?_add_of_ne _ h

/-- A write marks no entity other than the owner. -/
theorem entityMark_writeRow_of_ne (h : e ≠ id.entity) :
    (s.writeRow id c).changes.entities.get? e = s.changes.entities.get? e := by
  rcases writeRow_cases s id c with ⟨heq, -⟩ | ⟨-, -, -, -, hchanges⟩ | ⟨-, -, hchanges⟩
  · rw [heq]
  · rw [hchanges]
    exact get?_update_of_ne _ h
  · rw [hchanges]
    dsimp only
    split
    · exact get?_update_of_ne _ h
    · exact get?_add_of_ne _ h

/-- Writing a row touches no other entity. -/
theorem rowsAt_writeRow (h : e ≠ id.entity) : (s.writeRow id c).rowsAt e = s.rowsAt e := by
  funext d
  have hne : (⟨e, d⟩ : ComponentId) ≠ id := by
    rintro rfl
    exact h rfl
  exact components_writeRow.trans (if_neg hne)

theorem componentMark_dropRow {j : ComponentId} :
    (s.dropRow id).changes.components.get? j
      = if j = id ∧ (s.components.get? j).isSome then markRemoved (s.changes.components.get? j)
        else s.changes.components.get? j := by
  unfold dropRow
  by_cases hj : j = id
  · subst hj
    by_cases hc : s.components.contains j = true
    · rw [if_pos hc, if_pos ⟨rfl, hc⟩]
      exact get?_remove_self ..
    · rw [if_neg hc, if_neg fun h => hc h.2]
  · rw [if_neg (c := j = id ∧ _) fun h => hj h.1]
    split
    · exact get?_remove_of_ne _ hj
    · rfl

theorem componentMark_foldl_dropRow (ids : List ComponentId) (s : Store) (j : ComponentId) :
    (ids.foldl dropRow s).changes.components.get? j
      = if j ∈ ids ∧ (s.components.get? j).isSome then markRemoved (s.changes.components.get? j)
        else s.changes.components.get? j := by
  induction ids generalizing s with
  | nil => simp
  | cons id rest ih =>
    rw [List.foldl_cons, ih, componentMark_dropRow, components_dropRow]
    by_cases hj : j = id
    · simp [hj]
    · simp [hj]

theorem entityChanges_foldl_dropRow (ids : List ComponentId) (s : Store) :
    (ids.foldl dropRow s).changes.entities = s.changes.entities := by
  induction ids generalizing s with
  | nil => rfl
  | cons id rest ih =>
    rw [List.foldl_cons, ih, dropRow]
    split <;> rfl

theorem componentChanges_foldl_settle (owners : List EntityId) (s : Store) :
    (owners.foldl settle s).changes.components = s.changes.components := by
  induction owners generalizing s with
  | nil => rfl
  | cons i rest ih =>
    rw [List.foldl_cons, ih, settle]
    split
    · split <;> rfl
    · rfl

/-- The mark of a settled owner: without a row left it is removed. -/
def settledMark (shape? : Option Bitfield) (m : Option Change) : Option Change :=
  if shape?.any (·.isEmpty) then markRemoved m else some (markUpdated m)

theorem entityMark_settle {i : EntityId} :
    (s.settle i).changes.entities.get? e
      = if e = i then settledMark (s.entities.get? e) (s.changes.entities.get? e)
        else s.changes.entities.get? e := by
  unfold settle settledMark
  by_cases he : e = i
  · subst he
    cases hshape : s.entities.get? e with
    | none => simp [get?_update_self]
    | some shape =>
      cases hempty : shape.isEmpty <;> simp [hempty, get?_update_self, get?_remove_self]
  · cases hshape : s.entities.get? i with
    | none => simp [he, get?_update_of_ne]
    | some shape =>
      cases hempty : shape.isEmpty <;> simp [hempty, he, get?_update_of_ne, get?_remove_of_ne]

/-- Owners are listed once, and settling one leaves the shapes of the others. -/
theorem entityMark_foldl_settle {owners : List EntityId} (howners : owners.Nodup) (s : Store)
    (e : EntityId) :
    (owners.foldl settle s).changes.entities.get? e
      = if e ∈ owners then settledMark (s.entities.get? e) (s.changes.entities.get? e)
        else s.changes.entities.get? e := by
  induction owners generalizing s with
  | nil => simp
  | cons i rest ih =>
    obtain ⟨hi, hrest⟩ := List.nodup_cons.1 howners
    rw [List.foldl_cons, ih hrest, entityMark_settle, entities_settle]
    -- every turn would change the mark of an owner, so it matters that it has one only
    by_cases he : e = i
    · subst he
      simp [hi]
    · simp [he]

/-! ## Dropping a set of rows -/

variable {rows : KeySet ComponentId}

theorem componentMark_dropRows {j : ComponentId} :
    (s.dropRows rows).changes.components.get? j
      = if rows.contains j = true ∧ (s.components.get? j).isSome then
          markRemoved (s.changes.components.get? j)
        else s.changes.components.get? j := by
  unfold dropRows
  rw [componentChanges_foldl_settle, componentMark_foldl_dropRow]
  simp only [Table.mem_keys_iff]

theorem nodup_ownersOf (s : Store) (ids : List ComponentId) : (s.ownersOf ids).Nodup :=
  Table.nodup_keys _

/-- Who owns none of the rows keeps its rows and its mark. -/
theorem dropRows_of_not_owner (h : e ∉ s.ownersOf rows.keys) :
    (s.dropRows rows).rowsAt e = s.rowsAt e ∧
      (s.dropRows rows).changes.entities.get? e = s.changes.entities.get? e := by
  constructor
  · funext d
    unfold rowsAt
    rw [components_dropRows]
    split
    · rename_i hrow
      refine (Option.not_isSome_iff_eq_none.1 fun hd => h ?_).symm
      exact mem_ownersOf.2 ⟨⟨e, d⟩, Table.mem_keys_iff.2 hrow, hd, rfl⟩
    · rfl
  · unfold dropRows
    rw [entityMark_foldl_settle (nodup_ownersOf ..), if_neg h, entityChanges_foldl_dropRow]

/-- **Who owns one of the rows** goes and is removed, or stays and is updated. -/
theorem dropRows_of_owner (hs : s.Consistent) (h : e ∈ s.ownersOf rows.keys) :
    ((s.dropRows rows).rowsAt e = noRows ∧
      (s.dropRows rows).changes.entities.get? e = markRemoved (s.changes.entities.get? e)) ∨
    ((s.dropRows rows).rowsAt e ≠ noRows ∧
      (s.dropRows rows).changes.entities.get? e
        = some (markUpdated (s.changes.entities.get? e))) := by
  rw [Ne, (hs.dropRows rows).rowsAt_eq_noRows_iff]
  unfold dropRows
  rw [entityMark_foldl_settle (nodup_ownersOf ..), if_pos h, entityChanges_foldl_dropRow,
    entities_foldl_settle]
  -- the owner of a row is stored, and still is when only its rows are gone
  obtain ⟨id, -, hid, rfl⟩ := mem_ownersOf.1 h
  have hstored := isSome_entities_foldl_dropRow rows.keys s id.entity
  rw [hs.isSome_entities_iff.2 ⟨id.defId, hid⟩] at hstored
  obtain ⟨shape, hshape⟩ := Option.isSome_iff_exists.1 hstored
  rw [hshape]
  cases hempty : shape.isEmpty with
  | true => exact Or.inl ⟨by simp [h, hempty], by simp [settledMark, hempty]⟩
  | false => exact Or.inr ⟨by simp [hempty], by simp [settledMark, hempty]⟩

/-! ## Tracking -/

/-- Every mark of `s` tells the difference to `s₀`. -/
structure Tracked (s₀ s : Store) : Prop where
  components : ∀ id, Net none (s₀.components.get? id) (s.components.get? id)
    (s.changes.components.get? id)
  entities : ∀ e, Net noRows (s₀.rowsAt e) (s.rowsAt e) (s.changes.entities.get? e)

/-- Where no change is noted there is none. -/
theorem Tracked.refl (hcomponents : t.components = s.components) (hchanges : t.changes = .none) :
    Tracked s t := by
  refine ⟨fun id => ?_, fun e => ?_⟩
  · rw [hcomponents, hchanges]
    exact Net.refl ..
  · unfold rowsAt
    rw [hcomponents, hchanges]
    exact Net.refl ..

theorem Tracked.of_eq (h : Tracked s₀ s) (hcomponents : t.components = s.components)
    (hchanges : t.changes = s.changes) : Tracked s₀ t := by
  refine ⟨fun id => ?_, fun e => ?_⟩
  · rw [hcomponents, hchanges]
    exact h.components id
  · unfold rowsAt
    rw [hcomponents, hchanges]
    exact h.entities e

/-- A row that is written is marked for what it was before. -/
theorem Tracked.component_writeRow (h : Tracked s₀ s) (id : ComponentId) (c : Component) :
    Net none (s₀.components.get? id) ((s.writeRow id c).components.get? id)
      ((s.writeRow id c).changes.components.get? id) := by
  have hbefore := h.components id
  rcases writeRow_cases s id c with ⟨heq, -⟩ | ⟨old, hold, -, hnew, hchanges⟩ |
    ⟨hold, hnew, hchanges⟩
  · rw [heq]
    exact hbefore
  · rw [hchanges, get?_update_self, hnew]
    exact hbefore.update (by simp [hold]) (by simp)
  · rw [hold] at hbefore
    rw [hchanges, get?_add_self, hnew]
    exact hbefore.add (by simp)

/-- The owner of a row that is written is marked for the rows that it had before. -/
theorem Tracked.entity_writeRow (h : Tracked s₀ s) (hs : s.Consistent) (id : ComponentId)
    (c : Component) : Net noRows (s₀.rowsAt id.entity) ((s.writeRow id c).rowsAt id.entity)
      ((s.writeRow id c).changes.entities.get? id.entity) := by
  have hbefore := h.entities id.entity
  rcases writeRow_cases s id c with ⟨heq, -⟩ | ⟨old, hold, -, hnew, hchanges⟩ |
    ⟨hold, hnew, hchanges⟩
  · rw [heq]
    exact hbefore
  · rw [hchanges, get?_update_self]
    exact hbefore.update (rowsAt_ne_noRows hold) (rowsAt_ne_noRows hnew)
  · have hafter := rowsAt_ne_noRows hnew
    rw [hchanges]
    -- the row joins those of a stored owner, or comes with its owner
    cases hshape : s.entities.get? id.entity with
    | some shape =>
      have hstored : s.rowsAt id.entity ≠ noRows := fun hnone => by
        rw [hs.rowsAt_eq_noRows_iff.1 hnone] at hshape
        cases hshape
      rw [if_pos (by simp), get?_update_self]
      exact hbefore.update hstored hafter
    | none =>
      rw [hs.rowsAt_eq_noRows_iff.2 hshape] at hbefore
      rw [if_neg (by simp), get?_add_self]
      exact hbefore.add hafter

/-- **A write keeps the tracking.** -/
theorem Tracked.writeRow (h : Tracked s₀ s) (hs : s.Consistent) (id : ComponentId)
    (c : Component) : Tracked s₀ (s.writeRow id c) := by
  refine ⟨fun j => ?_, fun e => ?_⟩
  · by_cases hj : j = id
    · subst hj
      exact h.component_writeRow j c
    · rw [componentMark_writeRow_of_ne hj, components_writeRow, if_neg hj]
      exact h.components j
  · by_cases he : e = id.entity
    · subst he
      exact h.entity_writeRow hs id c
    · rw [entityMark_writeRow_of_ne he, rowsAt_writeRow he]
      exact h.entities e

theorem Tracked.writeRows {rows : List (ComponentId × Component)} (h : Tracked s₀ s)
    (hs : s.Consistent)
    (hrows : ∀ row ∈ rows, Admissible s.registry s.nextEntity row.1 row.2) :
    Tracked s₀ (rows.foldl (fun s row => s.writeRow row.1 row.2) s) := by
  induction rows generalizing s with
  | nil => exact h
  | cons row rest ih =>
    have hheader := header_writeRow s row.1 row.2
    refine ih (h.writeRow hs row.1 row.2) (hs.writeRow (hrows row (List.mem_cons_self ..)))
      fun row' hrow' => ?_
    rw [registry_eq_of_header hheader, nextEntity_eq_of_header hheader]
    exact hrows row' (List.mem_cons_of_mem _ hrow')

/-- **Dropping rows keeps the tracking.** -/
theorem Tracked.dropRows (h : Tracked s₀ s) (hs : s.Consistent) (rows : KeySet ComponentId) :
    Tracked s₀ (s.dropRows rows) := by
  refine ⟨fun j => ?_, fun e => ?_⟩
  · rw [componentMark_dropRows, components_dropRows]
    by_cases hrow : rows.contains j = true
    · rw [if_pos hrow]
      have hbefore := h.components j
      cases hj : s.components.get? j with
      | none =>
        rw [if_neg (by simp)]
        rw [hj] at hbefore
        exact hbefore
      | some c =>
        rw [if_pos (by simp [hrow])]
        exact hbefore.remove (by simp [hj])
    · rw [if_neg hrow, if_neg fun hboth => hrow hboth.1]
      exact h.components j
  -- an entity is touched only if it owns one of the rows
  · by_cases howner : e ∈ s.ownersOf rows.keys
    · obtain ⟨id, -, hid, rfl⟩ := mem_ownersOf.1 howner
      obtain ⟨c, hc⟩ := Option.isSome_iff_exists.1 hid
      have hstored := rowsAt_ne_noRows hc
      rcases dropRows_of_owner hs howner with ⟨hgone, hmark⟩ | ⟨hkept, hmark⟩
      · rw [hgone, hmark]
        exact (h.entities _).remove hstored
      · rw [hmark]
        exact (h.entities _).update hstored hkept
    · obtain ⟨hrows, hmark⟩ := dropRows_of_not_owner howner
      rw [hrows, hmark]
      exact h.entities e

end EntityBase.Store
