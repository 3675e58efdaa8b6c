import EntityBase.Proofs.Store.NetChange
import EntityBase.Proofs.Store.Placement

/-!
# Added rows — what an addition leaves in the table of components

An addition that succeeds is carried out row by row, first those that are
written and then those that are taken away. `rows_after_add` says what comes
of it for each key: the last component that the batch supplies, or nothing
where an entity of the batch was replaced, or else the row that was there.
What has the same content afterwards bears no mark of the call.
-/

namespace EntityBase.Store

open ChangeSet

variable {s u : Store} {p : Plan}

/-! ## Rows that are held already -/

/-- Whether a row is there already, up to equality of contents. -/
def Holds (s : Store) (row : ComponentId × Component) : Prop :=
  ∃ old, s.components.get? row.1 = some old ∧ old.sameContent row.2 = true

/-- Writing a row that is held already changes nothing. -/
theorem Holds.writeRow_eq {row : ComponentId × Component} (h : s.Holds row) :
    s.writeRow row.1 row.2 = s := by
  obtain ⟨old, hold, hsame⟩ := h
  unfold writeRow
  rw [hold]
  exact if_pos hsame

theorem Holds.writeRow_of_ne {row : ComponentId × Component} {id : ComponentId} {c : Component}
    (h : s.Holds row) (hne : row.1 ≠ id) : (s.writeRow id c).Holds row := by
  obtain ⟨old, hold, hsame⟩ := h
  exact ⟨old, by rw [components_writeRow, if_neg hne, hold], hsame⟩

/-- **What only some rows bear on** stays if those rows are held already. -/
theorem mark_writeRows {α : Type} (bears : ComponentId → Prop) (mark : Store → α)
    (hmark : ∀ s id c, ¬ bears id → mark (s.writeRow id c) = mark s)
    {rows : List (ComponentId × Component)} (hrows : ∀ row ∈ rows, bears row.1 → s.Holds row) :
    mark (rows.foldl (fun s row => s.writeRow row.1 row.2) s) = mark s := by
  induction rows generalizing s with
  | nil => rfl
  | cons row rest ih =>
    rw [List.foldl_cons]
    by_cases hbears : bears row.1
    · rw [(hrows row (List.mem_cons_self ..) hbears).writeRow_eq]
      exact ih fun later hlater => hrows later (List.mem_cons_of_mem _ hlater)
    · refine (ih fun later hlater hlaterBears => ?_).trans (hmark s row.1 row.2 hbears)
      -- a row that bears on it is another one than the row that is written
      have hne : later.1 ≠ row.1 := fun heq => hbears (heq ▸ hlaterBears)
      exact (hrows later (List.mem_cons_of_mem _ hlater) hlaterBears).writeRow_of_ne hne

/-! ## Marks of a plan that is carried out -/

section Quiet

variable (hp : ∀ id c, p.upserts.get? id = some c → p.removals.contains id = false)

include hp

/-- A row that does not differ afterwards was held already if it is written. -/
theorem holds_of_not_differs {id : ComponentId} {c : Component}
    (hsame : ¬ RowDiffers u (u.apply p) id) (hc : p.upserts.get? id = some c) :
    u.Holds (id, c) := by
  have hafter := components_apply p u id
  rw [hp id c hc, hc, if_neg Bool.false_ne_true] at hafter
  dsimp only at hafter
  have hrow : SameRow (u.components.get? id) (some (rowAfter (u.components.get? id) c)) := by
    rw [← hafter]
    exact Classical.not_not.1 hsame
  cases hold : u.components.get? id with
  | none =>
    rw [hold] at hrow
    exact hrow.elim
  | some old =>
    refine ⟨old, hold, Classical.byContradiction fun hunlike => ?_⟩
    rw [hold, rowAfter, if_neg hunlike] at hrow
    exact hunlike hrow

/-- A row that does not differ afterwards is not there when the rows are taken
away. -/
theorem none_of_not_differs {id : ComponentId} (hsame : ¬ RowDiffers u (u.apply p) id)
    (hrem : p.removals.contains id = true) :
    (p.upserts.entries.foldl (fun (s : Store) row => s.writeRow row.1 row.2)
      { u with nextEntity := p.nextEntity }).components.get? id = none := by
  have hafter := components_apply p u id
  rw [if_pos hrem] at hafter
  have hrow : SameRow (u.components.get? id) none := by
    rw [← hafter]
    exact Classical.not_not.1 hsame
  rw [components_writeRows]
  cases hup : p.upserts.get? id with
  | some c =>
    rw [hp id c hup] at hrem
    cases hrem
  | none =>
    cases hold : u.components.get? id with
    | none => rfl
    | some old =>
      rw [hold] at hrow
      exact hrow.elim

/-- **A row that does not differ** keeps its mark. -/
theorem componentMark_apply {id : ComponentId} (hsame : ¬ RowDiffers u (u.apply p) id) :
    (u.apply p).changes.components.get? id = u.changes.components.get? id := by
  unfold apply
  rw [componentMark_dropRows, if_neg]
  · refine mark_writeRows (· = id) (·.changes.components.get? id)
      (fun s j c hj => componentMark_writeRow_of_ne (Ne.symm hj)) ?_
    rintro row hrow rfl
    exact holds_of_not_differs hp hsame (Table.mem_entries_iff.1 hrow)
  · rintro ⟨hrem, hstored⟩
    rw [none_of_not_differs hp hsame hrem] at hstored
    cases hstored

/-- **An entity of which no row differs** keeps its mark. -/
theorem entityMark_apply {e : EntityId} (hsame : ¬ EntityDiffers u (u.apply p) e) :
    (u.apply p).changes.entities.get? e = u.changes.entities.get? e := by
  have hrows : ∀ id : ComponentId, id.entity = e → ¬ RowDiffers u (u.apply p) id := by
    rintro id rfl hdiffers
    exact hsame ⟨id.defId, hdiffers⟩
  unfold apply
  refine (dropRows_of_not_owner fun howner => ?_).2.trans ?_
  · obtain ⟨id, hid, hstored, howned⟩ := mem_ownersOf.1 howner
    have hgone := none_of_not_differs hp (hrows id howned) (Table.mem_keys_iff.1 hid)
    rw [Table.contains, hgone] at hstored
    cases hstored
  · refine mark_writeRows (·.entity = e) (·.changes.entities.get? e)
      (fun s id c hid => entityMark_writeRow_of_ne (Ne.symm hid)) fun row hrow howned => ?_
    exact holds_of_not_differs hp (hrows row.1 howned) (Table.mem_entries_iff.1 hrow)

end Quiet

/-! ## Additions -/

/-- The row at a key after the plan of a batch was carried out on the rows that it
was made for. -/
theorem components_apply_plan {r : Registry} {b : Batch} (hcap : Capped s.nextEntity)
    (hplan : s.plan r b = .ok p) (hrows : u.components = s.components) (id : ComponentId) :
    (u.apply p).components.get? id =
      match lastAt id (b.supplied (s.firstFresh b)) with
      | some c => some (rowAfter (s.components.get? id) c)
      | none =>
        if ∃ e ∈ b.placedEntities (s.firstFresh b), e.id = id.entity then none
        else s.components.get? id := by
  rw [components_apply, hrows]
  have hwritten := upserts_plan hcap hplan id
  have hremoved : p.removals.contains id = true ↔ _ := removals_plan_iff hcap hplan
  cases hlast : lastAt id (b.supplied (s.firstFresh b)) with
  | some c =>
    rw [hlast] at hwritten
    rw [removals_plan hplan hwritten, hwritten, if_neg Bool.false_ne_true]
  | none =>
    rw [hlast] at hwritten hremoved
    rw [hwritten]
    dsimp only
    by_cases howner : ∃ e ∈ b.placedEntities (s.firstFresh b), e.id = id.entity
    · rw [if_pos howner]
      by_cases hrem : p.removals.contains id = true
      · rw [if_pos hrem]
      -- a row that is not taken away is not there
      · rw [if_neg hrem]
        exact Option.not_isSome_iff_eq_none.1 fun hstored =>
          hrem (hremoved.2 ⟨rfl, howner, hstored⟩)
    · rw [if_neg howner, if_neg fun hrem => howner (hremoved.1 hrem).2.1]

/-- **What an addition leaves.** Take the store after any calls and an addition
that succeeds on it. The definitions of the batch are registered first, and
every component of the batch is by one that is registered then. The row at a
key is the last component that the batch supplies for it, the components of its
entities before the others, unless a row of the same content is there already;
if it supplies none, the row is gone where the batch has an entity of that id,
and otherwise the one that was there. What does not differ afterwards is marked
as the call found it. -/
theorem rows_after_add (shadowing : Bool) (calls : List Call) (item : Item)
    (options : CallOptions) (t : Store)
    (h : ((empty shadowing).afterAll calls).add item options = .ok t) :
    let s := (empty shadowing).afterAll calls
    let batch := item.batch
    let placed := batch.placedEntities (s.firstFresh batch)
    let supplied := batch.supplied (s.firstFresh batch)
    (registerAll s.shadowing s.registry batch.schemas = .ok t.registry ∧
      ∀ c ∈ batch.parts, (t.registry.byId? c.defId).isSome) ∧
    (∀ id, t.component? id =
      match lastAt id supplied with
      | some c => some (rowAfter (s.component? id) c)
      | none => if ∃ e ∈ placed, e.id = id.entity then none else s.component? id) ∧
    (∀ id, ¬ RowDiffers s t id →
      t.changes.components.get? id = (s.opened options).changes.components.get? id) ∧
    ∀ e, ¬ EntityDiffers s t e →
      t.changes.entities.get? e = (s.opened options).changes.entities.get? e := by
  have hconsistent : ((empty shadowing).afterAll calls).Consistent :=
    kept_consistent.afterAll (fun _ _ => trivial) (consistent_empty shadowing)
  dsimp only
  generalize (empty shadowing).afterAll calls = s at h hconsistent
  obtain ⟨r, p, hreg, hplan, rfl⟩ := add_cases h
  have hcap := hconsistent.capped
  -- the plan is carried out on the rows of the store
  have hrows : ({ s.opened options with registry := r } : Store).components = s.components := by
    unfold opened
    split <;> rfl
  have hregistry : (({ s.opened options with registry := r } : Store).apply p).registry = r :=
    registry_eq_of_header (header_apply p _)
  refine ⟨⟨?_, ?_⟩, fun id => ?_, fun id hsame => ?_, fun e hsame => ?_⟩
  · rw [hregistry]
    exact hreg
  · rw [hregistry]
    exact ((plan_eq_ok_iff hcap).1 hplan).1
  · exact components_apply_plan hcap hplan hrows id
  · refine componentMark_apply (fun _ _ hc => removals_plan hplan hc) fun hdiffers => hsame ?_
    unfold RowDiffers component? at hdiffers ⊢
    rwa [hrows] at hdiffers
  · refine entityMark_apply (fun _ _ hc => removals_plan hplan hc) fun hdiffers => hsame ?_
    unfold EntityDiffers RowDiffers component? at hdiffers ⊢
    rwa [hrows] at hdiffers

/-- An entity with a note and a tag comes again with another note only, which a
component after it overrides with the note that is there; a tag without an owner
gets an entity of its own. -/
theorem rows_after_add_replaced :
    let note (text : String) : Component :=
      { entity := 1, defId := 1, attributes := Table.ofList [("text", .string text)] }
    let calls : List Call := [.register { uri := "/note" }, .register { uri := "/tag" },
      .add (.many [.component (note "b"), .component { entity := 1, defId := 2 }]) {}]
    let item : Item := .many [.component (note "b"),
      .entity { id := 1, components := Table.ofList [(1, note "a")] }, .component { defId := 2 }]
    let s := (empty true).afterAll calls
    ∃ t, s.add item {} = .ok t ∧ SameRow (t.component? ⟨1, 1⟩) (some (note "b")) ∧
      t.changes.components.get? ⟨1, 1⟩ = none ∧ (s.component? ⟨1, 2⟩).isSome ∧
      t.component? ⟨1, 2⟩ = none ∧ SameRow (t.component? ⟨2, 2⟩) (some { defId := 2 }) := by
  intro note calls item s
  have hok : (s.add item {}).isOk = true := by decide +kernel
  cases h : s.add item {} with
  | error e =>
    rw [h] at hok
    cases hok
  | ok t =>
    obtain ⟨-, hrows, hquiet, -⟩ := rows_after_add true calls item {} t h
    have hsame : ¬ RowDiffers s t ⟨1, 1⟩ := by
      unfold RowDiffers
      rw [hrows]
      decide +kernel
    refine ⟨t, rfl, ?_, hquiet ⟨1, 1⟩ hsame, by decide +kernel, ?_, ?_⟩
    · rw [hrows]
      decide +kernel
    · rw [hrows, ← Option.isNone_iff_eq_none]
      decide +kernel
    · rw [hrows]
      decide +kernel

end EntityBase.Store
