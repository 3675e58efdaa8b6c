import EntityBase.Proofs.Registry
import EntityBase.Proofs.Store.Rows

/-!
# Plans — what a batch may write

`Admissible` says of a row that a store may hold it: the row stands at its
own key, has an owner, is by a registered definition, and its owner lies
below the next free id. A plan is `Sound` when every row that it writes is
admissible under its own next free id. Planning starts sound, every step of
it keeps a plan sound, and the next free id only ever rises: it stays above
whatever it was above before (`Plan.Rises`).

Soundness takes along a property `Q` of components. It holds of the rows of
a plan when it holds of the components of the batch under every owner that
planning may give them (`Batch.Fits`).
-/

namespace EntityBase

/-- An id lies below the next free one, if there is one. -/
def Below (next : Option Nat) (e : Nat) : Prop :=
  ∀ n : Nat, next = some n → e < n

/-- The next free id is one that can be given away. -/
def Capped (next : Option Nat) : Prop :=
  ∀ n : Nat, next = some n → n ≤ maxEntityId

/-- Whether the components of a batch have a property, each under every owner
that it may get: its own, that of its entity, or a fresh one. -/
structure Batch.Fits (Q : Component → Prop) (b : Batch) : Prop where
  placed : ∀ c ∈ b.components, Q c
  gathered : ∀ c ∈ b.components, ∀ id : Nat, id ≤ maxEntityId → Q { c with entity := id }
  owned : ∀ e ∈ b.entities, ∀ c ∈ e.components.values, ∀ id : Nat,
    id = e.id ∨ id ≤ maxEntityId → Q { c with entity := id }

theorem Batch.fits_true (b : Batch) : b.Fits fun _ => True :=
  ⟨fun _ _ => trivial, fun _ _ _ _ => trivial, fun _ _ _ _ _ _ => trivial⟩

namespace Store

/-- A row that a store with the given definitions and next free id may hold. -/
structure Admissible (r : Registry) (next : Option EntityId) (id : ComponentId) (c : Component) :
    Prop where
  keyed : c.id = id
  assigned : id.entity ≠ unassigned
  registered : (r.byId? id.defId).isSome
  below : Below next id.entity

theorem Admissible.mono {r : Registry} {next next' : Option EntityId} {id : ComponentId}
    {c : Component} (h : Admissible r next id c) (hnext : ∀ e, Below next e → Below next' e) :
    Admissible r next' id c :=
  ⟨h.keyed, h.assigned, h.registered, hnext _ h.below⟩

namespace Plan

variable {Q : Component → Prop} {r : Registry} {p p' : Plan}

/-- Every row that the plan writes may be held and has the property, and the
next free id is one that can be given away. -/
structure Sound (Q : Component → Prop) (r : Registry) (p : Plan) : Prop where
  row : ∀ id c, p.upserts.get? id = some c → Admissible r p.nextEntity id c
  fits : ∀ id c, p.upserts.get? id = some c → Q c
  positive : Below p.nextEntity unassigned
  capped : Capped p.nextEntity

/-- The step from one plan to a later one: whatever was below the next free
id still is. -/
def Rises (p p' : Plan) : Prop := ∀ e, Below p.nextEntity e → Below p'.nextEntity e

theorem Rises.refl (p : Plan) : p.Rises p := fun _ h => h

theorem Rises.trans {p'' : Plan} (h : p.Rises p') (h' : p'.Rises p'') : p.Rises p'' :=
  fun e he => h' e (h e he)

theorem below_after? {e n : Nat} (h : e ≤ n) : Below (after? n) e := by
  intro m hm
  unfold after? at hm
  split at hm
  · have hm : n + 1 = m := Option.some.inj hm
    omega
  · cases hm

theorem capped_after? (id : EntityId) : Capped (after? id) := by
  intro m hm
  unfold after? at hm
  split at hm
  · rename_i hlt
    obtain rfl := Option.some.inj hm
    exact Nat.succ_le_of_lt hlt
  · cases hm

/-- **Giving away an id**: it is a fresh one, and the next one lies above. -/
theorem allocate_spec {id : EntityId} (h : p.allocate = .ok (id, p')) :
    p.nextEntity = some id ∧ p'.upserts = p.upserts ∧ p'.removals = p.removals ∧
      p'.nextEntity = after? id := by
  unfold allocate at h
  cases hnext : p.nextEntity with
  | none =>
    rw [hnext] at h
    cases h
  | some n =>
    simp only [hnext, Except.ok.injEq, Prod.mk.injEq] at h
    obtain ⟨rfl, rfl⟩ := h
    exact ⟨rfl, rfl, rfl, rfl⟩

theorem rises_allocate {id : EntityId} (h : p.allocate = .ok (id, p')) : p.Rises p' := by
  obtain ⟨hnext, -, -, hafter⟩ := allocate_spec h
  intro e he
  rw [hafter]
  exact below_after? (Nat.le_of_lt (he id hnext))

theorem Sound.allocate (hp : p.Sound Q r) {id : EntityId} (h : p.allocate = .ok (id, p')) :
    p'.Sound Q r ∧ (id ≠ unassigned ∧ Below p'.nextEntity id) ∧ id ≤ maxEntityId := by
  obtain ⟨hnext, hupserts, -, hafter⟩ := allocate_spec h
  refine ⟨⟨fun i c hc => ?_, fun i c hc => ?_, rises_allocate h _ hp.positive, ?_⟩, ⟨?_, ?_⟩, ?_⟩
  · rw [hupserts] at hc
    exact (hp.row i c hc).mono (rises_allocate h)
  · rw [hupserts] at hc
    exact hp.fits i c hc
  · rw [hafter]
    exact capped_after? id
  · exact (Nat.ne_of_lt (hp.positive id hnext)).symm
  · rw [hafter]
    exact below_after? (Nat.le_refl id)
  · exact hp.capped id hnext

/-- Writing an admissible row keeps a plan sound. -/
theorem Sound.write (hp : p.Sound Q r) {c : Component}
    (hc : Admissible r p.nextEntity c.id c) (hQ : Q c) : (p.write c).Sound Q r := by
  -- a row of the result is the one written or one that the plan had
  have hget : ∀ id d, (p.write c).upserts.get? id = some d →
      (id = c.id ∧ d = c) ∨ p.upserts.get? id = some d := by
    intro id d hd
    have hinsert : (p.write c).upserts.get? id
        = if compare id c.id = .eq then some c else p.upserts.get? id := Table.get?_insert ..
    rw [hinsert] at hd
    split at hd
    · rename_i heq
      exact Or.inl ⟨Entries.compare_eq_eq_iff.1 heq, (Option.some.inj hd).symm⟩
    · exact Or.inr hd
  refine ⟨fun id d hd => ?_, fun id d hd => ?_, hp.positive, hp.capped⟩
  · rcases hget id d hd with ⟨rfl, rfl⟩ | hd
    · exact hc
    · exact hp.row id d hd
  · rcases hget id d hd with ⟨rfl, rfl⟩ | hd
    · exact hQ
    · exact hp.fits id d hd

/-! ## The entities of a batch -/

theorem checkComponent_ok {c : Component} (h : checkComponent r c = .ok ()) :
    (r.byId? c.defId).isSome := by
  unfold checkComponent at h
  split at h
  · assumption
  · cases h

theorem Sound.planRows {id : EntityId} {rows : List Component} (hp : p.Sound Q r)
    (hid : id ≠ unassigned ∧ Below p.nextEntity id)
    (hQ : ∀ c ∈ rows, Q { c with entity := id })
    (h : Store.planRows r id p rows = .ok p') :
    p'.Sound Q r ∧ p'.nextEntity = p.nextEntity := by
  induction rows generalizing p with
  | nil =>
    obtain rfl := Except.ok.inj h
    exact ⟨hp, rfl⟩
  | cons c rest ih =>
    rw [Store.planRows] at h
    cases hcheck : checkComponent r { c with entity := id } with
    | error e =>
      rw [hcheck] at h
      cases h
    | ok u =>
      rw [hcheck] at h
      have hreg : (r.byId? c.defId).isSome :=
        checkComponent_ok (c := { c with entity := id }) hcheck
      have hrow : Admissible r p.nextEntity ({ c with entity := id } : Component).id
          { c with entity := id } := ⟨rfl, hid.1, hreg, hid.2⟩
      exact ih (p := p.write { c with entity := id })
        (hp.write hrow (hQ c (List.mem_cons_self ..))) hid
        (fun c hc => hQ c (List.mem_cons_of_mem _ hc)) h

/-- The id for an entity of a batch: its own, or a fresh one. -/
theorem Sound.idFor {e : Entity} {id : EntityId} (hp : p.Sound Q r)
    (he : Below p.nextEntity e.id) (h : p.idFor e = .ok (id, p')) :
    p'.Sound Q r ∧ p.Rises p' ∧ (id ≠ unassigned ∧ Below p'.nextEntity id) ∧
      (id = e.id ∨ id ≤ maxEntityId) := by
  unfold Plan.idFor at h
  split at h
  · obtain ⟨hsound, hid, hcap⟩ := hp.allocate h
    exact ⟨hsound, rises_allocate h, hid, Or.inr hcap⟩
  · rename_i hne
    simp only [Except.ok.injEq, Prod.mk.injEq] at h
    obtain ⟨rfl, rfl⟩ := h
    exact ⟨hp, Rises.refl p, ⟨hne, he⟩, Or.inl rfl⟩

theorem Sound.planEntities {s : Store} {entities : List Entity} (hp : p.Sound Q r)
    (hids : ∀ e ∈ entities, Below p.nextEntity e.id)
    (hQ : ∀ e ∈ entities, ∀ c ∈ e.components.values, ∀ id : Nat,
      id = e.id ∨ id ≤ maxEntityId → Q { c with entity := id })
    (h : Store.planEntities s r p entities = .ok p') : p'.Sound Q r ∧ p.Rises p' := by
  induction entities generalizing p with
  | nil =>
    obtain rfl := Except.ok.inj h
    exact ⟨hp, Rises.refl p⟩
  | cons e rest ih =>
    rw [Store.planEntities] at h
    cases hid : p.idFor e with
    | error err =>
      rw [hid] at h
      cases h
    | ok q =>
      obtain ⟨id, q⟩ := q
      rw [hid] at h
      dsimp only at h
      obtain ⟨hq, hrise, hassigned, horigin⟩ := hp.idFor (hids e (List.mem_cons_self ..)) hid
      cases hrows : Store.planRows r id (q.replace s id) e.components.values with
      | error err =>
        rw [hrows] at h
        cases h
      | ok q' =>
        rw [hrows] at h
        -- replacing marks rows for removal only, of which soundness says nothing
        have hreplaced : (q.replace s id).Sound Q r := ⟨hq.row, hq.fits, hq.positive, hq.capped⟩
        obtain ⟨hq', hnext⟩ := hreplaced.planRows hassigned
          (fun c hc => hQ e (List.mem_cons_self ..) c hc id horigin) hrows
        -- the rows of the entity take no ids
        have hrise' : p.Rises q' := fun i hi => by
          rw [hnext]
          exact hrise i hi
        obtain ⟨hsound, hrest⟩ :=
          ih hq' (fun i hi => hrise' _ (hids i (List.mem_cons_of_mem _ hi)))
            (fun i hi => hQ i (List.mem_cons_of_mem _ hi)) h
        exact ⟨hsound, hrise'.trans hrest⟩

/-! ## The components of a batch -/

/-- A gathering may take a row: its id is given away. -/
def Gathers (p : Plan) (g : Gathering) : Prop :=
  (g.id ≠ unassigned ∧ Below p.nextEntity g.id) ∧ g.id ≤ maxEntityId

theorem Sound.gather {current : Option Gathering} {d : DefId} {g : Gathering} (hp : p.Sound Q r)
    (hcurrent : ∀ g, current = some g → p.Gathers g) (h : p.gather current d = .ok (g, p')) :
    p'.Sound Q r ∧ p.Rises p' ∧ p'.Gathers g := by
  -- a first gathering and one that meets a definition again both take a fresh id
  have hfresh : ∀ {seen : Bitfield},
      (p.allocate.map fun q => ((⟨q.1, seen⟩ : Gathering), q.2)) = .ok (g, p') →
        p'.Sound Q r ∧ p.Rises p' ∧ p'.Gathers g := by
    intro seen hmap
    cases halloc : p.allocate with
    | error e =>
      rw [halloc] at hmap
      cases hmap
    | ok q =>
      obtain ⟨id, q⟩ := q
      rw [halloc] at hmap
      simp only [Except.map, Except.ok.injEq, Prod.mk.injEq] at hmap
      obtain ⟨rfl, rfl⟩ := hmap
      obtain ⟨hsound, hid⟩ := hp.allocate halloc
      exact ⟨hsound, rises_allocate halloc, hid⟩
  unfold Plan.gather at h
  cases current with
  | none => exact hfresh h
  | some g₀ =>
    dsimp only at h
    split at h
    · exact hfresh h
    · simp only [Except.ok.injEq, Prod.mk.injEq] at h
      obtain ⟨rfl, rfl⟩ := h
      exact ⟨hp, Rises.refl p, hcurrent g₀ rfl⟩

theorem Sound.planComponents {current : Option Gathering} {components : List Component}
    (hp : p.Sound Q r) (hcurrent : ∀ g, current = some g → p.Gathers g)
    (hids : ∀ c ∈ components, Below p.nextEntity c.entity)
    (hplaced : ∀ c ∈ components, Q c)
    (hgathered : ∀ c ∈ components, ∀ id : Nat, id ≤ maxEntityId → Q { c with entity := id })
    (h : Store.planComponents r p current components = .ok p') :
    p'.Sound Q r ∧ p.Rises p' := by
  induction components generalizing p current with
  | nil =>
    obtain rfl := Except.ok.inj h
    exact ⟨hp, Rises.refl p⟩
  | cons c rest ih =>
    rw [Store.planComponents] at h
    cases hcheck : checkComponent r c with
    | error e =>
      rw [hcheck] at h
      cases h
    | ok u =>
      rw [hcheck] at h
      dsimp only at h
      have hreg := checkComponent_ok hcheck
      have hrest : ∀ c ∈ rest, Below p.nextEntity c.entity :=
        fun i hi => hids i (List.mem_cons_of_mem _ hi)
      have hplaced' : ∀ c ∈ rest, Q c := fun i hi => hplaced i (List.mem_cons_of_mem _ hi)
      have hgathered' : ∀ c ∈ rest, ∀ id : Nat, id ≤ maxEntityId → Q { c with entity := id } :=
        fun i hi => hgathered i (List.mem_cons_of_mem _ hi)
      -- a component with an owner is written as it is, a loose one under its gathering
      by_cases hown : c.hasEntity = true
      · rw [if_pos hown] at h
        have hrow : Admissible r p.nextEntity c.id c :=
          ⟨rfl, by simpa [Component.hasEntity, Component.id] using hown, hreg,
            hids c (List.mem_cons_self ..)⟩
        exact ih (p := p.write c) (hp.write hrow (hplaced c (List.mem_cons_self ..))) hcurrent hrest
          hplaced' hgathered' h
      · rw [if_neg hown] at h
        cases hgather : p.gather current c.defId with
        | error e =>
          rw [hgather] at h
          cases h
        | ok q =>
          obtain ⟨g, q⟩ := q
          rw [hgather] at h
          dsimp only at h
          obtain ⟨hq, hrise, hg⟩ := hp.gather hcurrent hgather
          have hrow : Admissible r q.nextEntity ({ c with entity := g.id } : Component).id
              { c with entity := g.id } := ⟨rfl, hg.1.1, hreg, hg.1.2⟩
          have hQ : Q { c with entity := g.id } := hgathered c (List.mem_cons_self ..) g.id hg.2
          have hg' : ∀ g', some g = some g' → (q.write { c with entity := g.id }).Gathers g' := by
            intro g' heq
            obtain rfl := Option.some.inj heq
            exact hg
          obtain ⟨hsound, hrise'⟩ :=
            ih (hq.write hrow hQ) hg' (fun i hi => hrise _ (hrest i hi)) hplaced' hgathered' h
          exact ⟨hsound, hrise.trans hrise'⟩

end Plan

/-! ## Whole batches -/

variable {Q : Component → Prop} {s : Store} {r : Registry} {b : Batch} {p : Plan}

theorem le_foldl_max (l : List Nat) (a : Nat) :
    a ≤ l.foldl max a ∧ ∀ n ∈ l, n ≤ l.foldl max a := by
  induction l generalizing a with
  | nil => simp
  | cons m rest ih =>
    obtain ⟨hacc, hrest⟩ := ih (max a m)
    rw [List.foldl_cons]
    refine ⟨by omega, fun n hn => ?_⟩
    rcases List.mem_cons.1 hn with rfl | hn
    · omega
    · exact hrest n hn

/-- Planning starts past every id that the batch names itself, and past
every id that the store was past. -/
theorem startPlan_below (s : Store) (entities : List Entity) (components : List Component) :
    (∀ e, Below s.nextEntity e → Below (s.startPlan entities components).nextEntity e) ∧
    (∀ e ∈ entities, Below (s.startPlan entities components).nextEntity e.id) ∧
    (∀ c ∈ components, Below (s.startPlan entities components).nextEntity c.entity) ∧
    Below (s.startPlan entities components).nextEntity unassigned := by
  have hmax := le_foldl_max (entities.map (·.id) ++ components.map (·.entity)) unassigned
  -- the start is the larger of two next free ids, and lies past both
  have hstart : ∀ n : Nat, (s.startPlan entities components).nextEntity = some n →
      explicitMax entities components < n ∧ ∃ m : Nat, s.nextEntity = some m ∧ m ≤ n := by
    intro n hn
    obtain ⟨after, hafter, hn⟩ := Option.bind_eq_some_iff.1 hn
    obtain ⟨m, hm, rfl⟩ := Option.map_eq_some_iff.1 hn
    have := Plan.below_after? (Nat.le_refl (explicitMax entities components)) after hafter
    exact ⟨Nat.lt_of_lt_of_le this (Nat.le_max_right ..), m, hm, Nat.le_max_left ..⟩
  have hexplicit : ∀ e : Nat, e ≤ explicitMax entities components →
      Below (s.startPlan entities components).nextEntity e :=
    fun e he n hn => Nat.lt_of_le_of_lt he (hstart n hn).1
  refine ⟨fun e he n hn => ?_, fun e he => ?_, fun c hc => ?_, hexplicit _ hmax.1⟩
  · obtain ⟨-, m, hm, hle⟩ := hstart n hn
    exact Nat.lt_of_lt_of_le (he m hm) hle
  · exact hexplicit _ (hmax.2 _ (List.mem_append_left _ (List.mem_map.2 ⟨e, he, rfl⟩)))
  · exact hexplicit _ (hmax.2 _ (List.mem_append_right _ (List.mem_map.2 ⟨c, hc, rfl⟩)))

theorem startPlan_capped (hcap : Capped s.nextEntity) (entities : List Entity)
    (components : List Component) : Capped (s.startPlan entities components).nextEntity := by
  intro n hn
  obtain ⟨after, hafter, hn⟩ := Option.bind_eq_some_iff.1 hn
  obtain ⟨m, hm, rfl⟩ := Option.map_eq_some_iff.1 hn
  exact Nat.max_le.2 ⟨hcap m hm, Plan.capped_after? _ after hafter⟩

/-- A plan of a batch in its two passes, and the rows that it spares. -/
theorem plan_cases (h : s.plan r b = .ok p) :
    ∃ q q', planEntities s r (s.startPlan b.entities b.components) b.entities = .ok q ∧
      planComponents r q none b.components = .ok q' ∧
      p = { q' with removals := q'.upserts.keys.foldl Table.erase q'.removals } := by
  unfold plan at h
  cases hentities : planEntities s r (s.startPlan b.entities b.components) b.entities with
  | error e =>
    rw [hentities] at h
    cases h
  | ok q =>
    rw [hentities] at h
    dsimp only at h
    cases hcomponents : planComponents r q none b.components with
    | error e =>
      rw [hcomponents] at h
      cases h
    | ok q' =>
      rw [hcomponents] at h
      exact ⟨q, q', rfl, hcomponents, (Except.ok.inj h).symm⟩

/-- **A batch plans admissible rows only**, and its next free id stays above
whatever the store's was above. -/
theorem sound_plan (hcap : Capped s.nextEntity) (hb : b.Fits Q) (h : s.plan r b = .ok p) :
    p.Sound Q r ∧ ∀ e, Below s.nextEntity e → Below p.nextEntity e := by
  obtain ⟨q, q', hentities, hcomponents, rfl⟩ := plan_cases h
  obtain ⟨hstore, hents, hcomps, hpos⟩ := startPlan_below s b.entities b.components
  -- the empty plan is sound, and the two passes keep it so
  have hstart : (s.startPlan b.entities b.components).Sound Q r := by
    refine ⟨fun id c hc => ?_, fun id c hc => ?_, hpos, startPlan_capped hcap _ _⟩
    · cases hc
    · cases hc
  obtain ⟨hq, hrise⟩ := hstart.planEntities hents hb.owned hentities
  obtain ⟨hq', hrise'⟩ := hq.planComponents (fun g hg => by cases hg)
    (fun c hc => hrise _ (hcomps c hc)) hb.placed hb.gathered hcomponents
  exact ⟨⟨hq'.row, hq'.fits, hq'.positive, hq'.capped⟩,
    fun e he => hrise' e (hrise e (hstore e he))⟩

/-- **No row is both written and taken away.** -/
theorem removals_plan (h : s.plan r b = .ok p) {id : ComponentId} {c : Component}
    (hc : p.upserts.get? id = some c) : p.removals.contains id = false := by
  obtain ⟨q, q', -, -, rfl⟩ := plan_cases h
  have hmem : id ∈ q'.upserts.keys := Table.mem_keys_iff.2 (Table.contains_eq_true_iff.2 ⟨c, hc⟩)
  rw [Table.contains_eq_false_iff]
  dsimp only
  rw [Table.get?_foldl_erase, if_pos hmem]

end Store

end EntityBase
