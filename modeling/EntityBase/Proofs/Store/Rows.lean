import EntityBase.Proofs.Table
import EntityBase.Store.Add

/-!
# Rows and shapes — what the moves inside a call do

Writing a row, taking one away and settling its owner are the only moves
that touch the tables. Each is stated once here, by what the look-ups give
afterwards, and the folds of each over a whole plan follow. Nothing after
this file opens `writeRow`, `dropRow` or `settle` for its tables.
-/

namespace EntityBase

/-- A set with a member is not empty, and the other way round. -/
theorem Bitfield.isEmpty_eq_false_iff {b : Bitfield} :
    b.isEmpty = false ↔ ∃ d, b.contains d = true := by
  unfold isEmpty contains
  constructor
  · intro h
    exact Nat.exists_testBit_of_ne_zero (by simpa using h)
  · rintro ⟨d, hd⟩
    simp only [beq_eq_false_iff_ne]
    intro h0
    simp [h0] at hd

namespace Store

variable {s : Store} {id j : ComponentId} {c : Component} {e : EntityId}

/-- Whether an entity is stored with the bit of a definition. -/
def HasBit (s : Store) (e : EntityId) (d : DefId) : Prop :=
  ∃ shape, s.entities.get? e = some shape ∧ shape.contains d = true

/-- What the moves on rows leave alone: the policy, the registry and the
next free id. -/
def header (s : Store) : Bool × Registry × Option EntityId :=
  (s.shadowing, s.registry, s.nextEntity)

theorem registry_eq_of_header {t : Store} (h : t.header = s.header) : t.registry = s.registry :=
  congrArg (·.2.1) h

theorem nextEntity_eq_of_header {t : Store} (h : t.header = s.header) :
    t.nextEntity = s.nextEntity :=
  congrArg (·.2.2) h

/-- What each step leaves alone, a run of steps leaves alone. -/
theorem header_foldl {α : Type} {f : Store → α → Store} (hf : ∀ s a, (f s a).header = s.header)
    (l : List α) (s : Store) : (l.foldl f s).header = s.header := by
  induction l generalizing s with
  | nil => rfl
  | cons a rest ih => rw [List.foldl_cons, ih, hf]

/-! ## Writing a row -/

/-- The row that writing leaves: one of the same content stays. -/
def rowAfter (old? : Option Component) (c : Component) : Component :=
  match old? with
  | some old => if old.sameContent c then old else c
  | none => c

theorem components_writeRow :
    (s.writeRow id c).components.get? j
      = if j = id then some (rowAfter (s.components.get? id) c) else s.components.get? j := by
  unfold writeRow rowAfter
  by_cases hj : j = id
  · subst hj
    cases h : s.components.get? j with
    | none => simp
    | some old =>
      by_cases hsame : old.sameContent c = true <;> simp [hsame, h]
  · cases h : s.components.get? id with
    | none => simp [hj, Table.get?_insert_of_ne]
    | some old =>
      by_cases hsame : old.sameContent c = true <;> simp [hsame, hj, Table.get?_insert_of_ne]

/-- Only a row under a new key changes a shape, that of its owner. -/
theorem entities_writeRow :
    (s.writeRow id c).entities.get? e
      = if e = id.entity ∧ s.components.get? id = none then
          some (((s.entities.get? e).getD .empty).insert id.defId)
        else s.entities.get? e := by
  unfold writeRow
  cases h : s.components.get? id with
  | some old => by_cases hsame : old.sameContent c = true <;> simp [hsame]
  | none =>
    by_cases he : e = id.entity
    · subst he
      cases hshape : s.entities.get? id.entity <;> simp
    · cases hshape : s.entities.get? id.entity <;> simp [he, Table.get?_insert_of_ne]

theorem header_writeRow (s : Store) (id : ComponentId) (c : Component) :
    (s.writeRow id c).header = s.header := by
  unfold writeRow
  split
  · split <;> rfl
  · rfl

/-! ## Taking a row away -/

theorem components_dropRow :
    (s.dropRow id).components.get? j = if j = id then none else s.components.get? j := by
  unfold dropRow
  by_cases hc : s.components.contains id = true
  · rw [if_pos hc]
    by_cases hj : j = id
    · subst hj
      simp
    · simp [hj, Table.get?_erase_of_ne]
  · rw [if_neg hc]
    by_cases hj : j = id
    · subst hj
      rw [if_pos rfl]
      exact Table.contains_eq_false_iff.1 (by simpa using hc)
    · rw [if_neg hj]

/-- A row that is taken away takes its bit along; the owner stays for now,
perhaps without a bit. -/
theorem entities_dropRow :
    (s.dropRow id).entities.get? e
      = if e = id.entity ∧ s.components.contains id = true then
          (s.entities.get? e).map (·.erase id.defId)
        else s.entities.get? e := by
  unfold dropRow
  by_cases hc : s.components.contains id = true
  · rw [if_pos hc]
    by_cases he : e = id.entity
    · subst he
      cases hshape : s.entities.get? id.entity <;> simp [hshape, hc]
    · cases hshape : s.entities.get? id.entity <;> simp [he, Table.get?_insert_of_ne]
  · rw [if_neg hc, if_neg fun h => hc h.2]

theorem header_dropRow (s : Store) (id : ComponentId) : (s.dropRow id).header = s.header := by
  unfold dropRow
  split <;> rfl

/-! ## Settling an owner -/

/-- An owner goes when its shape is empty. -/
theorem entities_settle {i : EntityId} :
    (s.settle i).entities.get? e
      = if e = i ∧ ∃ shape, s.entities.get? i = some shape ∧ shape.isEmpty = true then none
        else s.entities.get? e := by
  unfold settle
  cases hshape : s.entities.get? i with
  | none => simp
  | some shape =>
    by_cases hempty : shape.isEmpty = true
    · by_cases he : e = i
      · subst he
        simp [hempty]
      · simp [hempty, he, Table.get?_erase_of_ne]
    · simp [hempty]

@[simp] theorem components_settle : (s.settle e).components = s.components := by
  unfold settle
  split
  · split <;> rfl
  · rfl

theorem header_settle (s : Store) (e : EntityId) : (s.settle e).header = s.header := by
  unfold settle
  split
  · split <;> rfl
  · rfl

/-! ## Whole plans -/

/-- **The rows after a table of them was written**: every key of the table has
the row that writing leaves there, and no other is touched. -/
theorem components_writeRows (rows : Table ComponentId Component) (s : Store) (j : ComponentId) :
    (rows.entries.foldl (fun s row => s.writeRow row.1 row.2) s).components.get? j
      = match rows.get? j with
        | some c => some (rowAfter (s.components.get? j) c)
        | none => s.components.get? j := by
  obtain ⟨entries, hsorted⟩ := rows
  change _ = match Entries.get? j entries with
    | some c => some (rowAfter (s.components.get? j) c)
    | none => s.components.get? j
  induction entries generalizing s with
  | nil => rfl
  | cons row rest ih =>
    obtain ⟨k, c⟩ := row
    rw [List.foldl_cons, ih _ (List.Pairwise.of_cons hsorted), components_writeRow]
    by_cases hj : j = k
    · subst hj
      -- the keys increase, so no later row comes to this one again
      have hrest : Entries.get? j rest = none :=
        Entries.get?_eq_none_of_lt fun e he => List.rel_of_pairwise_cons hsorted he
      simp [hrest, Entries.get?]
    · simp [hj, Entries.get?]

/-- Rows that are taken away are gone, and no other is touched. -/
theorem components_foldl_dropRow (ids : List ComponentId) (s : Store) (j : ComponentId) :
    (ids.foldl dropRow s).components.get? j = if j ∈ ids then none else s.components.get? j := by
  induction ids generalizing s with
  | nil => simp
  | cons id rest ih =>
    rw [List.foldl_cons, ih, components_dropRow]
    by_cases hj : j = id
    · simp [hj]
    · simp [hj]

/-- Taking rows away stores and forgets no entity. -/
theorem isSome_entities_foldl_dropRow (ids : List ComponentId) (s : Store) (e : EntityId) :
    ((ids.foldl dropRow s).entities.get? e).isSome = (s.entities.get? e).isSome := by
  induction ids generalizing s with
  | nil => rfl
  | cons id rest ih =>
    rw [List.foldl_cons, ih, entities_dropRow]
    split
    · rw [Option.isSome_map]
    · rfl

/-- Settled owners without a bit are gone, and no other entity is touched. -/
theorem entities_foldl_settle (owners : List EntityId) (s : Store) (e : EntityId) :
    (owners.foldl settle s).entities.get? e
      = if e ∈ owners ∧ ∃ shape, s.entities.get? e = some shape ∧ shape.isEmpty = true then none
        else s.entities.get? e := by
  induction owners generalizing s with
  | nil => simp
  | cons i rest ih =>
    rw [List.foldl_cons, ih, entities_settle]
    by_cases he : e = i
    · subst he
      -- settling an owner once more changes nothing
      by_cases hempty : ∃ shape, s.entities.get? e = some shape ∧ shape.isEmpty = true
      · simp [hempty]
      · simp [hempty]
    · simp [he]

@[simp] theorem components_foldl_settle (owners : List EntityId) (s : Store) :
    (owners.foldl settle s).components = s.components := by
  induction owners generalizing s with
  | nil => rfl
  | cons i rest ih => rw [List.foldl_cons, ih, components_settle]

/-- The owners of a list of keys are the entities of those that are there. -/
theorem mem_ownersOf {ids : List ComponentId} :
    e ∈ s.ownersOf ids ↔ ∃ id ∈ ids, s.components.contains id = true ∧ id.entity = e := by
  unfold ownersOf keySet
  rw [Table.mem_keys_iff, Table.contains_ofList_unit]
  simp [and_assoc]

theorem header_dropRows (s : Store) (rows : KeySet ComponentId) :
    (s.dropRows rows).header = s.header := by
  unfold dropRows
  rw [header_foldl header_settle, header_foldl header_dropRow]

/-- **The rows after a set of them was dropped.** -/
theorem components_dropRows (s : Store) (rows : KeySet ComponentId) (j : ComponentId) :
    (s.dropRows rows).components.get? j
      = if rows.contains j = true then none else s.components.get? j := by
  unfold dropRows
  rw [components_foldl_settle, components_foldl_dropRow]
  simp only [Table.mem_keys_iff]

theorem header_apply (p : Plan) (s : Store) :
    (s.apply p).header = ({ s with nextEntity := p.nextEntity } : Store).header := by
  unfold apply
  dsimp only
  rw [header_dropRows]
  exact header_foldl (fun s (row : ComponentId × Component) => header_writeRow s row.1 row.2) _ _

/-- **The rows after a plan was carried out.** -/
theorem components_apply (p : Plan) (s : Store) (j : ComponentId) :
    (s.apply p).components.get? j
      = if p.removals.contains j = true then none
        else match p.upserts.get? j with
          | some c => some (rowAfter (s.components.get? j) c)
          | none => s.components.get? j := by
  unfold apply
  rw [components_dropRows, components_writeRows]

end Store

end EntityBase
