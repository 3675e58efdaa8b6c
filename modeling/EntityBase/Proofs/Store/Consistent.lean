import EntityBase.Proofs.Store.Call
import EntityBase.Proofs.Store.Plan

/-!
# Consistency — the two tables of a store agree

Shapes and rows are kept in two tables that every call updates apart. They
are `Aligned` when a shape has a bit exactly where there is a row and every
row is one that the store may hold, and `Consistent` when besides no shape
is empty. Writing and taking away rows keep them aligned; emptied shapes
appear only while rows are taken away, and the settling of their owners
prunes them.

`tables_agree` reads the consistency of every store in the plain terms of
its look-ups.
-/

namespace EntityBase.Store

variable {s t : Store}

/-- A bit for each row, and rows that may be held. -/
structure Aligned (s : Store) : Prop where
  bit_iff : ∀ e d, s.HasBit e d ↔ (s.components.get? ⟨e, d⟩).isSome
  row : ∀ id c, s.components.get? id = some c → Admissible s.registry s.nextEntity id c

/-- Aligned tables without an empty shape, and a next free id that can be given
away. -/
structure Consistent (s : Store) : Prop extends Aligned s where
  nonempty : ∀ e shape, s.entities.get? e = some shape → shape.isEmpty = false
  capped : Capped s.nextEntity

/-- A stored entity has a row, and the owner of a row is stored. -/
theorem Consistent.isSome_entities_iff (hs : s.Consistent) {e : EntityId} :
    (s.entities.get? e).isSome ↔ ∃ d, (s.components.get? ⟨e, d⟩).isSome := by
  constructor
  · intro h
    obtain ⟨shape, hshape⟩ := Option.isSome_iff_exists.1 h
    obtain ⟨d, hd⟩ := Bitfield.isEmpty_eq_false_iff.1 (hs.nonempty e shape hshape)
    exact ⟨d, (hs.bit_iff e d).1 ⟨shape, hshape, hd⟩⟩
  · rintro ⟨d, hd⟩
    obtain ⟨shape, hshape, -⟩ := (hs.bit_iff e d).2 hd
    rw [hshape]
    rfl

/-- Nothing of consistency hangs on the changes or on the policy. -/
theorem Consistent.of_tables (hs : s.Consistent) (hentities : t.entities = s.entities)
    (hcomponents : t.components = s.components) (hregistry : t.registry = s.registry)
    (hnext : t.nextEntity = s.nextEntity) : t.Consistent := by
  obtain ⟨⟨hbit, hrow⟩, hnonempty, hcapped⟩ := hs
  refine ⟨⟨?_, ?_⟩, ?_, ?_⟩
  · simp only [HasBit, hentities, hcomponents]
    exact hbit
  · rw [hcomponents, hregistry, hnext]
    exact hrow
  · rw [hentities]
    exact hnonempty
  · rw [hnext]
    exact hcapped

/-- Consistency moves to a registry that knows as much, and to a higher next
free id. -/
theorem Consistent.mono (hs : s.Consistent) {r : Registry} {next : Option EntityId}
    (hr : ∀ n, (s.registry.byId? n).isSome → (r.byId? n).isSome)
    (hnext : ∀ e, Below s.nextEntity e → Below next e) (hcap : Capped next) :
    ({ s with registry := r, nextEntity := next } : Store).Consistent := by
  refine ⟨⟨hs.bit_iff, fun id c hc => ?_⟩, hs.nonempty, hcap⟩
  obtain ⟨hkeyed, hassigned, hregistered, hbelow⟩ := hs.row id c hc
  exact ⟨hkeyed, hassigned, hr _ hregistered, hnext _ hbelow⟩

theorem consistent_empty (shadowing : Bool) : (empty shadowing).Consistent := by
  refine ⟨⟨fun e d => ⟨?_, fun h => ?_⟩, fun id c h => ?_⟩, fun e shape h => ?_, fun n hn => ?_⟩
  · rintro ⟨shape, h, -⟩
    cases h
  · cases h
  · cases h
  · cases h
  · obtain rfl := Option.some.inj hn
    decide

/-- The store that holds definitions and nothing else. -/
def bare (shadowing : Bool) (r : Registry) : Store := { empty shadowing with registry := r }

theorem consistent_bare (shadowing : Bool) (r : Registry) : (bare shadowing r).Consistent := by
  have hempty := consistent_empty shadowing
  refine hempty.mono (fun n hn => ?_) (fun e he => he) hempty.capped
  rw [show (empty shadowing).registry = .empty from rfl, Registry.byId?_empty] at hn
  cases hn

/-! ## Writing rows -/

theorem hasBit_writeRow {id : ComponentId} {c : Component} {e : EntityId} {d : DefId}
    (hs : s.Aligned) :
    (s.writeRow id c).HasBit e d ↔ s.HasBit e d ∨ (⟨e, d⟩ : ComponentId) = id := by
  obtain ⟨i, k⟩ := id
  unfold HasBit
  rw [entities_writeRow]
  by_cases he : e = i
  · subst he
    cases hold : s.components.get? ⟨e, k⟩ with
    | none =>
      cases hshape : s.entities.get? e with
      | none => simp [@eq_comm _ d k]
      | some shape => simp [@eq_comm _ d k]
    -- the row was there, and its bit with it
    | some old =>
      have hbit : s.HasBit e k := (hs.bit_iff e k).2 (by rw [hold]; rfl)
      simp only [reduceCtorEq, and_false, if_false, ComponentId.mk.injEq, true_and]
      constructor
      · exact Or.inl
      · rintro (h | rfl)
        · exact h
        · exact hbit
  · simp [he]

theorem Aligned.writeRow {id : ComponentId} {c : Component} (hs : s.Aligned)
    (hc : Admissible s.registry s.nextEntity id c) : (s.writeRow id c).Aligned := by
  have hheader := header_writeRow s id c
  refine ⟨fun e d => ?_, fun j k hk => ?_⟩
  · rw [hasBit_writeRow hs, hs.bit_iff, components_writeRow]
    by_cases hj : (⟨e, d⟩ : ComponentId) = id <;> simp [hj]
  · rw [registry_eq_of_header hheader, nextEntity_eq_of_header hheader]
    rw [components_writeRow] at hk
    split at hk
    · rename_i hj
      subst hj
      obtain rfl := Option.some.inj hk
      unfold rowAfter
      split
      · rename_i old hold
        split
        -- a row of the same content stays
        · exact hs.row j old hold
        · exact hc
      · exact hc
    · exact hs.row j k hk

/-- Writing leaves no shape empty: it only ever sets bits. -/
theorem Consistent.writeRow {id : ComponentId} {c : Component} (hs : s.Consistent)
    (hc : Admissible s.registry s.nextEntity id c) : (s.writeRow id c).Consistent := by
  refine ⟨hs.toAligned.writeRow hc, fun e shape hshape => ?_, ?_⟩
  · rw [entities_writeRow] at hshape
    split at hshape
    · obtain rfl := Option.some.inj hshape
      exact Bitfield.isEmpty_eq_false_iff.2 ⟨id.defId, by simp⟩
    · exact hs.nonempty e shape hshape
  · rw [nextEntity_eq_of_header (header_writeRow s id c)]
    exact hs.capped

/-- The rows of a plan, written one after another. -/
theorem Consistent.writeRows {rows : List (ComponentId × Component)} (hs : s.Consistent)
    (hrows : ∀ row ∈ rows, Admissible s.registry s.nextEntity row.1 row.2) :
    (rows.foldl (fun s row => s.writeRow row.1 row.2) s).Consistent := by
  induction rows generalizing s with
  | nil => exact hs
  | cons row rest ih =>
    have hheader := header_writeRow s row.1 row.2
    refine ih (hs.writeRow (hrows row (List.mem_cons_self ..))) fun row' hrow' => ?_
    rw [registry_eq_of_header hheader, nextEntity_eq_of_header hheader]
    exact hrows row' (List.mem_cons_of_mem _ hrow')

/-! ## Taking rows away -/

theorem hasBit_dropRow {id : ComponentId} {e : EntityId} {d : DefId} (hs : s.Aligned) :
    (s.dropRow id).HasBit e d ↔ s.HasBit e d ∧ (⟨e, d⟩ : ComponentId) ≠ id := by
  obtain ⟨i, k⟩ := id
  unfold HasBit
  rw [entities_dropRow]
  by_cases he : e = i
  · subst he
    by_cases hc : s.components.contains ⟨e, k⟩ = true
    · cases hshape : s.entities.get? e with
      | none => simp
      | some shape => simp [hc, @eq_comm _ d k]
    -- without a row there was no bit either
    · have hbit : ¬ s.HasBit e k := fun h => hc ((hs.bit_iff e k).1 h)
      simp only [hc, and_false, Bool.false_eq_true, if_false]
      constructor
      · intro h
        refine ⟨h, fun heq => hbit ?_⟩
        obtain ⟨-, rfl⟩ := ComponentId.mk.inj heq
        exact h
      · exact fun h => h.1
  · simp [he]

theorem Aligned.dropRow (hs : s.Aligned) (id : ComponentId) : (s.dropRow id).Aligned := by
  have hheader := header_dropRow s id
  refine ⟨fun e d => ?_, fun j k hk => ?_⟩
  · rw [hasBit_dropRow hs, hs.bit_iff, components_dropRow]
    by_cases hj : (⟨e, d⟩ : ComponentId) = id <;> simp [hj]
  · rw [registry_eq_of_header hheader, nextEntity_eq_of_header hheader]
    rw [components_dropRow] at hk
    split at hk
    · cases hk
    · exact hs.row j k hk

theorem Aligned.foldl_dropRow (hs : s.Aligned) (ids : List ComponentId) :
    (ids.foldl Store.dropRow s).Aligned := by
  induction ids generalizing s with
  | nil => exact hs
  | cons id rest ih => exact ih (hs.dropRow id)

/-- Settling owners takes no bit away: only empty shapes go. -/
theorem Aligned.foldl_settle (hs : s.Aligned) (owners : List EntityId) :
    (owners.foldl Store.settle s).Aligned := by
  have hheader := header_foldl header_settle owners s
  refine ⟨fun e d => ?_, fun id c hc => ?_⟩
  · rw [components_foldl_settle, ← hs.bit_iff]
    unfold HasBit
    rw [entities_foldl_settle]
    constructor
    · rintro ⟨shape, hshape, hd⟩
      split at hshape
      · cases hshape
      · exact ⟨shape, hshape, hd⟩
    · rintro ⟨shape, hshape, hd⟩
      refine ⟨shape, ?_, hd⟩
      -- a shape with a bit is not empty, so its owner stays
      rw [if_neg, hshape]
      rintro ⟨-, shape', hshape', hempty⟩
      obtain rfl := Option.some.inj (hshape.symm.trans hshape')
      rw [Bitfield.isEmpty_eq_false_iff.2 ⟨d, hd⟩] at hempty
      cases hempty
  · rw [registry_eq_of_header hheader, nextEntity_eq_of_header hheader]
    rw [components_foldl_settle] at hc
    exact hs.row id c hc

/-- **A set of rows goes and the tables agree again.** A shape that the loss
of its rows emptied belongs to an owner that is settled. -/
theorem Consistent.dropRows (hs : s.Consistent) (rows : KeySet ComponentId) :
    (s.dropRows rows).Consistent := by
  have haligned := hs.toAligned.foldl_dropRow rows.keys
  have hcapped : Capped (s.dropRows rows).nextEntity := by
    rw [nextEntity_eq_of_header (header_dropRows s rows)]
    exact hs.capped
  refine ⟨haligned.foldl_settle _, fun e shape hshape => ?_, hcapped⟩
  unfold Store.dropRows at hshape
  rw [entities_foldl_settle] at hshape
  split at hshape
  · cases hshape
  rename_i hkept
  cases hempty : shape.isEmpty with
  | false => rfl
  | true =>
    -- the entity had a row before, and that row is gone
    have hbefore : (s.entities.get? e).isSome := by
      rw [← isSome_entities_foldl_dropRow rows.keys, hshape]
      rfl
    obtain ⟨d, hd⟩ := hs.isSome_entities_iff.1 hbefore
    have hgone : (⟨e, d⟩ : ComponentId) ∈ rows.keys := by
      refine Decidable.byContradiction fun hnot => ?_
      have hrow : ((rows.keys.foldl Store.dropRow s).components.get? ⟨e, d⟩).isSome := by
        rw [components_foldl_dropRow, if_neg hnot]
        exact hd
      obtain ⟨shape', hshape', hbit⟩ := (haligned.bit_iff e d).2 hrow
      obtain rfl := Option.some.inj (hshape.symm.trans hshape')
      rw [Bitfield.isEmpty_eq_false_iff.2 ⟨d, hbit⟩] at hempty
      cases hempty
    exact absurd ⟨mem_ownersOf.2 ⟨⟨e, d⟩, hgone, hd, rfl⟩, shape, hshape, hempty⟩ hkept

/-! ## Calls -/

/-- What each registration keeps, registering a batch keeps. -/
theorem registerAll_induction {shadowing : Bool} {r r' : Registry} {schemas : List Schema}
    {P : Registry → Prop} (h : registerAll shadowing r schemas = .ok r') (hr : P r)
    (hstep : ∀ (q q' : Registry) (outcome : Registration), ∀ schema ∈ schemas, P q →
      q.register schema shadowing = .ok (q', outcome) → P q') : P r' := by
  induction schemas generalizing r with
  | nil =>
    obtain rfl := Except.ok.inj h
    exact hr
  | cons schema rest ih =>
    rw [registerAll_cons] at h
    cases hreg : r.register schema shadowing with
    | error e =>
      rw [hreg] at h
      cases h
    | ok p =>
      obtain ⟨r₁, outcome⟩ := p
      rw [hreg] at h
      exact ih h (hstep r r₁ outcome schema (List.mem_cons_self ..) hr hreg)
        fun q q' outcome s hs => hstep q q' outcome s (List.mem_cons_of_mem _ hs)

/-- Registering a batch keeps what was registered. -/
theorem byId?_registerAll {shadowing : Bool} {r r' : Registry} {schemas : List Schema}
    (h : registerAll shadowing r schemas = .ok r') {n : Nat} {d : Definition}
    (hd : r.byId? n = some d) : r'.byId? n = some d :=
  registerAll_induction (P := fun q => q.byId? n = some d) h hd
    fun _ _ _ _ _ hq hreg => Registry.byId?_register hreg hq

/-- An accepted addition in its three steps: the schemas, the plan, and what
the plan does. -/
theorem add_cases {item : Item} {options : CallOptions} (h : s.add item options = .ok t) :
    ∃ r p, registerAll s.shadowing s.registry item.batch.schemas = .ok r ∧
      s.plan r item.batch = .ok p ∧ t = ({ s.opened options with registry := r }).apply p := by
  rw [add_eq] at h
  cases hreg : registerAll s.shadowing s.registry item.batch.schemas with
  | error e =>
    rw [hreg] at h
    cases h
  | ok r =>
    rw [hreg] at h
    dsimp only at h
    cases hplan : s.plan r item.batch with
    | error e =>
      rw [hplan] at h
      cases h
    | ok p =>
      rw [hplan] at h
      exact ⟨r, p, rfl, hplan, (Except.ok.inj h).symm⟩

/-- An addition with registered schemas and a plan is accepted. -/
theorem add_of_plan {item : Item} (options : CallOptions) {r : Registry} {p : Plan}
    (hschemas : registerAll s.shadowing s.registry item.batch.schemas = .ok r)
    (hplan : s.plan r item.batch = .ok p) :
    s.add item options = .ok (({ s.opened options with registry := r } : Store).apply p) := by
  rw [add_eq, hschemas]
  dsimp only
  rw [hplan]

/-- A plan is carried out on the rows of the store. -/
theorem components_opened (s : Store) (options : CallOptions) (r : Registry) :
    ({ s.opened options with registry := r } : Store).components = s.components := by
  unfold Store.opened
  split <;> rfl

theorem Consistent.opened (hs : s.Consistent) (options : CallOptions) :
    (s.opened options).Consistent := by
  unfold Store.opened
  split
  · exact hs
  · exact hs.of_tables rfl rfl rfl rfl

/-- The store that a plan is written to: it has the definitions and the next
free id that the plan was made for. -/
theorem Consistent.staged (hs : s.Consistent) (options : CallOptions) {r : Registry} {b : Batch}
    {p : Plan} (hreg : registerAll s.shadowing s.registry b.schemas = .ok r)
    (hplan : s.plan r b = .ok p) :
    ({ s.opened options with registry := r, nextEntity := p.nextEntity } : Store).Consistent := by
  have hr : ∀ n, (s.registry.byId? n).isSome → (r.byId? n).isSome := by
    intro n hn
    obtain ⟨d, hd⟩ := Option.isSome_iff_exists.1 hn
    rw [byId?_registerAll hreg hd]
    rfl
  obtain ⟨hp, hrise⟩ := sound_plan hs.capped (Batch.fits_true b) hplan
  -- ids only rise and definitions only come, so every row may still be held
  have htables := hs.mono hr hrise hp.capped
  unfold Store.opened
  split
  · exact htables
  · exact htables.of_tables rfl rfl rfl rfl

/-- The rows of a plan may be held by the store that it is written to. -/
theorem Consistent.admissible_upserts (hs : s.Consistent) {r : Registry} {b : Batch} {p : Plan}
    (hplan : s.plan r b = .ok p) :
    ∀ row ∈ p.upserts.entries, Admissible r p.nextEntity row.1 row.2 :=
  fun row hrow => (sound_plan hs.capped (Batch.fits_true b) hplan).1.row row.1 row.2
    (Table.mem_entries_iff.1 hrow)

theorem Consistent.add {item : Item} {options : CallOptions} (hs : s.Consistent)
    (h : s.add item options = .ok t) : t.Consistent := by
  obtain ⟨r, p, hreg, hplan, rfl⟩ := add_cases h
  have hstaged := hs.staged options hreg hplan
  exact (hstaged.writeRows (hs.admissible_upserts hplan)).dropRows p.removals

theorem register_cases {schema : Schema} (h : s.attempt (.register schema) = .ok t) :
    ∃ r outcome, s.registry.register schema s.shadowing = .ok (r, outcome) ∧
      t = { s with registry := r } := by
  rw [attempt_register, register_eq] at h
  cases hreg : s.registry.register schema s.shadowing with
  | error e =>
    rw [hreg] at h
    cases h
  | ok p =>
    rw [hreg] at h
    exact ⟨p.1, p.2, rfl, (Except.ok.inj h).symm⟩

/-- A copy has the tables of its store, or empty ones. -/
theorem Consistent.clone (hs : s.Consistent) (options : CloneOptions) :
    (s.clone options).Consistent := by
  obtain ⟨entities, definitions⟩ := options
  cases entities with
  | true => exact hs.of_tables rfl rfl (by simp [Store.clone]) rfl
  | false =>
    cases definitions with
    | false => exact consistent_empty s.shadowing
    | true => exact consistent_bare s.shadowing s.registry

/-- **Every accepted call keeps the tables in agreement.** -/
theorem kept_consistent : Kept (fun _ => True) Consistent := by
  intro s call t _ hs h
  cases call with
  | register schema =>
    obtain ⟨r, outcome, hreg, rfl⟩ := register_cases h
    refine hs.mono (fun n hn => ?_) (fun e he => he) hs.capped
    obtain ⟨d, hd⟩ := Option.isSome_iff_exists.1 hn
    rw [Registry.byId?_register hreg hd]
    rfl
  | add item options =>
    rw [attempt_add] at h
    exact hs.add h
  | removeComponents ids options =>
    obtain rfl := Except.ok.inj h
    exact (hs.opened options).dropRows _
  | removeEntities ids options =>
    obtain rfl := Except.ok.inj h
    exact (hs.opened options).dropRows _
  | clearChanges =>
    obtain rfl := Except.ok.inj h
    exact hs.of_tables rfl rfl rfl rfl
  | clone options =>
    obtain rfl := Except.ok.inj h
    exact hs.clone options

/-- **The tables of every store agree**, whatever calls led to it, refused
ones and copies among them: a bit stands for each row and for nothing else,
no shape is empty, no row is without an owner, every row stands at its own
key and is by a registered definition, and the next free id lies above every
stored entity. -/
theorem tables_agree (shadowing : Bool) (calls : List Call) :
    let s := (empty shadowing).afterAll calls
    (∀ e d, (∃ shape, s.shape? e = some shape ∧ shape.contains d = true) ↔
      (s.component? ⟨e, d⟩).isSome) ∧
    ((∀ e shape, s.shape? e = some shape → shape.isEmpty = false) ∧
      ∀ id, (s.component? id).isSome → id.entity ≠ unassigned) ∧
    (∀ id c, s.component? id = some c →
      c.entity = id.entity ∧ c.defId = id.defId ∧ (s.definition? (.id c.defId)).isSome) ∧
    (s.nextEntity = none ∨ ∃ n : Nat, s.nextEntity = some n ∧ ∀ e ∈ s.entityIds, e < n) := by
  have hs : ((empty shadowing).afterAll calls).Consistent :=
    kept_consistent.afterAll (fun _ _ => trivial) (consistent_empty shadowing)
  dsimp only
  generalize (empty shadowing).afterAll calls = s at hs
  refine ⟨hs.bit_iff, ⟨hs.nonempty, fun id hid => ?_⟩, fun id c hc => ?_, ?_⟩
  · obtain ⟨c, hc⟩ := Option.isSome_iff_exists.1 hid
    exact (hs.row id c hc).assigned
  · obtain ⟨hkeyed, -, hregistered, -⟩ := hs.row id c hc
    subst hkeyed
    exact ⟨rfl, rfl, hregistered⟩
  · cases hnext : s.nextEntity with
    | none => exact Or.inl rfl
    | some n =>
      refine Or.inr ⟨n, rfl, fun e he => ?_⟩
      obtain ⟨d, hd⟩ := hs.isSome_entities_iff.1 (Table.mem_keys_iff.1 he)
      obtain ⟨c, hc⟩ := Option.isSome_iff_exists.1 hd
      exact (hs.row _ c hc).below n hnext

end EntityBase.Store
