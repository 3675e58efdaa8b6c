import EntityBase.Proofs.Store.Groups
import EntityBase.Proofs.Store.Merge
import EntityBase.Proofs.Store.Refusal

/-!
# Fresh ids — what nobody has had before

An addition gives ids to the entities that come without one and to the groups of
components without an owner. These ids are the numbers from `Store.firstFresh`
on. No entity that the store ever held has one of them, because the next free id
only rises and stays above whatever was stored (`below_afterAll`), and the batch
names none of them itself. So the rows under a fresh id are the ones that the
batch supplies there and no others, and nothing is written over.

Where too few ids are left the addition is refused, and for no other reason that
has to do with ids: what names all of its ids needs none (`add_eq_of_registered`).
`fresh_ids` puts this together.
-/

namespace EntityBase

namespace Store

variable {s t : Store} {r : Registry} {b : Batch} {p q : Plan} {e : EntityId}

/-! ## Ids of the past -/

/-- A copy that leaves the entities behind: its entities are counted anew. -/
def Call.startsAnew : Call → Bool
  | .clone options => !options.entities
  | _ => false

theorem nextEntity_opened (s : Store) (options : CallOptions) :
    (s.opened options).nextEntity = s.nextEntity := by
  unfold opened
  split <;> rfl

/-- **What was below the next free id stays so** through a call. -/
theorem below_attempt (hcap : Capped s.nextEntity) {call : Call} (hcall : call.startsAnew = false)
    (h : s.attempt call = .ok t) (he : Below s.nextEntity e) : Below t.nextEntity e := by
  cases call with
  | register schema =>
    obtain ⟨r, outcome, -, rfl⟩ := register_cases h
    exact he
  | add item options =>
    rw [attempt_add] at h
    obtain ⟨r, p, -, hplan, rfl⟩ := add_cases h
    have hrise := (sound_plan hcap (Batch.fits_true _) hplan).2
    rw [nextEntity_eq_of_header (header_apply p _)]
    exact hrise e he
  | removeComponents ids options =>
    obtain rfl : s.removeComponents ids options = t := Except.ok.inj h
    have hheader := header_dropRows (s.opened options) (keySet ids)
    rw [removeComponents, nextEntity_eq_of_header hheader, nextEntity_opened]
    exact he
  | removeEntities ids options =>
    obtain rfl : s.removeEntities ids options = t := Except.ok.inj h
    have hheader := header_dropRows (s.opened options) (s.rowsOfAll ids)
    rw [removeEntities, nextEntity_eq_of_header hheader, nextEntity_opened]
    exact he
  | clearChanges =>
    obtain rfl := Except.ok.inj h
    exact he
  | clone options =>
    obtain rfl := Except.ok.inj h
    have hentities : options.entities = true := by
      simpa [Call.startsAnew] using hcall
    have hnext : (s.clone options).nextEntity = s.nextEntity := by
      unfold clone
      rw [if_pos hentities]
    rw [hnext]
    exact he

theorem below_afterAll (hs : s.Consistent) {later : List Call}
    (hlater : ∀ call ∈ later, call.startsAnew = false) (he : Below s.nextEntity e) :
    Below (s.afterAll later).nextEntity e := by
  have hkept : Kept (fun call => call.startsAnew = false) fun t =>
      t.Consistent ∧ Below t.nextEntity e := by
    rintro u call t hcall ⟨hu, hbelow⟩ h
    exact ⟨kept_consistent u call t trivial hu h, below_attempt hu.capped hcall h hbelow⟩
  exact (hkept.afterAll hlater ⟨hs, he⟩).2

/-- A stored entity lies below the next free id. -/
theorem Consistent.below_of_stored (hs : s.Consistent) (he : (s.shape? e).isSome) :
    Below s.nextEntity e := by
  obtain ⟨d, hd⟩ := hs.isSome_entities_iff.1 he
  obtain ⟨c, hc⟩ := Option.isSome_iff_exists.1 hd
  exact (hs.row _ c hc).below

/-- Whether no entity of the id was stored by the calls, counting from the last copy
without entities on. -/
def NeverStored (shadowing : Bool) (calls : List Call) (e : EntityId) : Prop :=
  ∀ earlier later, calls = earlier ++ later → (∀ call ∈ later, call.startsAnew = false) →
    ((empty shadowing).afterAll earlier).shape? e = none

theorem firstFresh_le_of_below (h : s.firstFresh b ≤ e) (he : e < idBound) :
    ¬ Below s.nextEntity e := by
  intro hbelow
  unfold firstFresh at h
  cases hnext : s.nextEntity with
  | none =>
    rw [hnext, Option.getD_none] at h
    exact absurd (Nat.le_trans (Nat.le_max_left ..) h) (Nat.not_le.2 he)
  | some n =>
    rw [hnext, Option.getD_some] at h
    exact absurd (hbelow n hnext) (Nat.not_lt.2 (Nat.le_trans (Nat.le_max_left ..) h))

/-- **A fresh id was never that of a stored entity.** -/
theorem neverStored_of_firstFresh_le (shadowing : Bool) (calls : List Call) (b : Batch)
    (h : ((empty shadowing).afterAll calls).firstFresh b ≤ e) (he : e < idBound) :
    NeverStored shadowing calls e := by
  rintro earlier later rfl hlater
  have hconsistent : ((empty shadowing).afterAll earlier).Consistent :=
    kept_consistent.afterAll (fun _ _ => trivial) (consistent_empty shadowing)
  have happend : (empty shadowing).afterAll (earlier ++ later)
      = ((empty shadowing).afterAll earlier).afterAll later := List.foldl_append
  rw [happend] at h
  by_contra hstored
  have hsome : (((empty shadowing).afterAll earlier).shape? e).isSome :=
    Option.isSome_iff_ne_none.2 hstored
  exact firstFresh_le_of_below h he
    (below_afterAll hconsistent hlater (hconsistent.below_of_stored hsome))

/-- What is not stored has no row. -/
theorem Consistent.component?_eq_none (hs : s.Consistent) {id : ComponentId}
    (h : ¬ Below s.nextEntity id.entity) : s.component? id = none := by
  cases hc : s.component? id with
  | none => rfl
  | some c => exact absurd (hs.row id c hc).below h

/-- The ids that a batch names lie below its fresh ones. -/
theorem lt_firstFresh (s : Store) (b : Batch) :
    0 < s.firstFresh b ∧ (∀ e ∈ b.entities, e.id < s.firstFresh b) ∧
      ∀ c ∈ b.components, c.entity < s.firstFresh b := by
  obtain ⟨-, hmax⟩ :=
    le_foldl_max (b.entities.map (·.id) ++ b.components.map (·.entity)) unassigned
  have hexplicit {n : Nat} (hn : n ≤ explicitMax b.entities b.components) :
      n < s.firstFresh b :=
    Nat.lt_of_lt_of_le (Nat.lt_succ_of_le hn) (Nat.le_max_right ..)
  refine ⟨hexplicit (Nat.zero_le _), fun e he => ?_, fun c hc => ?_⟩
  · exact hexplicit (hmax _ (List.mem_append_left _ (List.mem_map.2 ⟨e, he, rfl⟩)))
  · exact hexplicit (hmax _ (List.mem_append_right _ (List.mem_map.2 ⟨c, hc, rfl⟩)))

/-! ## Entities under fresh ids -/

/-- The owners of what the entities of a batch bring: their own ids, or fresh ones. -/
theorem entity_of_mem_assignEntities {next : Nat} {entities : List Entity} {c : Component}
    (h : c ∈ (assignEntities next entities).flatMap fun e => e.components.values) :
    (∃ e ∈ entities, c.entity = e.id) ∨
      next ≤ c.entity ∧ c.entity < next + Batch.unassignedCount entities := by
  induction entities generalizing next with
  | nil => cases h
  | cons e rest ih =>
    rw [assignEntities] at h
    by_cases hid : e.id = unassigned
    · have hcount : Batch.unassignedCount (e :: rest) = Batch.unassignedCount rest + 1 := by
        simp [Batch.unassignedCount, hid]
      rw [if_pos hid, List.flatMap_cons, Plan.values_withId, List.mem_append] at h
      rw [hcount]
      rcases h with h | h
      · obtain ⟨c', -, rfl⟩ := List.mem_map.1 h
        exact Or.inr ⟨Nat.le_refl next, Nat.lt_add_of_pos_right (Nat.succ_pos _)⟩
      · rcases ih h with ⟨e', he', howner⟩ | ⟨hle, hlt⟩
        · exact Or.inl ⟨e', List.mem_cons_of_mem _ he', howner⟩
        · have hnumber : next + 1 + Batch.unassignedCount rest
              = next + (Batch.unassignedCount rest + 1) := by omega
          exact Or.inr ⟨Nat.le_of_succ_le hle, Nat.lt_of_lt_of_eq hlt hnumber⟩
    · have hcount : Batch.unassignedCount (e :: rest) = Batch.unassignedCount rest := by
        simp [Batch.unassignedCount, hid]
      rw [if_neg hid, List.flatMap_cons, Plan.values_withId, List.mem_append] at h
      rw [hcount]
      rcases h with h | h
      · obtain ⟨c', -, rfl⟩ := List.mem_map.1 h
        exact Or.inl ⟨e, List.mem_cons_self .., rfl⟩
      · rcases ih h with ⟨e', he', howner⟩ | hfresh
        · exact Or.inl ⟨e', List.mem_cons_of_mem _ he', howner⟩
        · exact Or.inr hfresh

/-- **Entities without an id take the fresh ids in order**: under the id of the `i`-th of
them the entities of the batch supply its rows. -/
theorem lastAt_assignEntities {next : Nat} {entities : List Entity}
    (h : ∀ e ∈ entities, e.id < next) {i : Nat} {e : Entity}
    (he : (entities.filter fun e => e.id = unassigned)[i]? = some e) (d : DefId) :
    lastAt ⟨next + i, d⟩ ((assignEntities next entities).flatMap fun e => e.components.values)
      = lastAt ⟨next + i, d⟩ (e.withId (next + i)).components.values := by
  induction entities generalizing next i with
  | nil => cases he
  | cons e' rest ih =>
    obtain ⟨hlt, hrest⟩ := List.forall_mem_cons.1 h
    -- the rows of an entity all have its id
    have hnone (id : EntityId) (hne : id ≠ next + i) :
        lastAt ⟨next + i, d⟩ (e'.withId id).components.values = none := by
      refine lastAt_eq_none_iff.2 fun c hc heq => hne ?_
      rw [Plan.values_withId] at hc
      obtain ⟨c', -, rfl⟩ := List.mem_map.1 hc
      exact congrArg ComponentId.entity heq
    rw [assignEntities]
    by_cases hid : e'.id = unassigned
    · rw [List.filter_cons_of_pos (by simpa using hid)] at he
      rw [if_pos hid, List.flatMap_cons, lastAt_append]
      cases i with
      | zero =>
        obtain rfl := Option.some.inj he
        -- the entities after it have later ids, or their own
        have hlater : lastAt ⟨next + 0, d⟩
            ((assignEntities (next + 1) rest).flatMap fun e => e.components.values) = none := by
          refine lastAt_eq_none_iff.2 fun c hc heq => ?_
          have howner : c.entity = next := congrArg ComponentId.entity heq
          rcases entity_of_mem_assignEntities hc with ⟨e, he, hown⟩ | ⟨hle, -⟩
          · exact absurd (hrest e he) (by rw [← hown, howner]; exact Nat.lt_irrefl next)
          · rw [howner] at hle
            exact absurd hle (Nat.not_succ_le_self next)
        rw [hlater, Option.none_or]
        rfl
      | succ i =>
        have hnumber : next + (i + 1) = next + 1 + i := by omega
        have hearlier := hnone next (Nat.ne_of_lt (Nat.lt_add_of_pos_right i.succ_pos))
        rw [hearlier, Option.or_none, hnumber]
        exact ih (fun e he => Nat.lt_succ_of_lt (hrest e he)) he
    · rw [List.filter_cons_of_neg (by simpa using hid)] at he
      have hearlier := hnone e'.id (Nat.ne_of_lt (Nat.lt_add_right i hlt))
      rw [if_neg hid, List.flatMap_cons, lastAt_append, hearlier, Option.or_none]
      exact ih hrest he

/-! ## Rows under fresh ids -/

/-- **The row at a key under a fresh id** is the last component that the batch supplies
there, and nothing where it supplies none. -/
theorem component?_add_fresh (hs : s.Consistent) {item : Item} {options : CallOptions}
    (h : s.add item options = .ok t) {id : ComponentId}
    (hfresh : s.firstFresh item.batch ≤ id.entity) (hid : id.entity < idBound) :
    t.component? id = lastAt id (item.batch.supplied (s.firstFresh item.batch)) := by
  obtain ⟨r, p, hreg, hplan, rfl⟩ := add_cases h
  have hbefore : s.components.get? id = none :=
    hs.component?_eq_none (firstFresh_le_of_below hfresh hid)
  rw [component?, components_apply_plan hs.capped hplan (components_opened s options r), hbefore]
  cases lastAt id (item.batch.supplied (s.firstFresh item.batch)) with
  | none => exact ite_self none
  | some c => rfl

/-- Under the id of an entity that comes without one the batch supplies its rows. -/
theorem lastAt_supplied_entity (s : Store) (b : Batch) {i : Nat} {e : Entity}
    (he : (b.entities.filter fun e => e.id = unassigned)[i]? = some e) (d : DefId) :
    lastAt ⟨s.firstFresh b + i, d⟩ (b.supplied (s.firstFresh b))
      = lastAt ⟨s.firstFresh b + i, d⟩ (e.withId (s.firstFresh b + i)).components.values := by
  obtain ⟨-, hentities, hcomponents⟩ := s.lt_firstFresh b
  have hi : i < Batch.unassignedCount b.entities := by
    rw [Batch.unassignedCount, List.countP_eq_length_filter]
    exact (List.getElem?_eq_some_iff.1 he).1
  -- components with an owner have earlier ids and those without one later ids
  have hnone : lastAt ⟨s.firstFresh b + i, d⟩
      (assignComponents (s.firstFresh b + Batch.unassignedCount b.entities) [] b.components)
        = none := by
    refine lastAt_eq_none_iff.2 fun c hc heq => ?_
    have howner : c.entity = s.firstFresh b + i := congrArg ComponentId.entity heq
    rcases mem_or_le_of_mem_assignComponents hc with hown | hle
    · have hlt := hcomponents c hown
      rw [howner] at hlt
      exact absurd (Nat.le_add_right ..) (Nat.not_le.2 hlt)
    · rw [howner] at hle
      exact absurd (Nat.le_of_add_le_add_left hle) (Nat.not_le.2 hi)
  rw [Batch.supplied, lastAt_append, hnone, Option.none_or]
  exact lastAt_assignEntities hentities he d

/-- Under the id of a group the batch supplies the components of the group. -/
theorem lastAt_supplied_group (s : Store) (b : Batch) {c : Component}
    (hc : c ∈ placedFrom (s.firstFresh b + Batch.unassignedCount b.entities) (gather b.loose)) :
    lastAt c.id (b.supplied (s.firstFresh b)) = some c := by
  obtain ⟨-, hentities, hcomponents⟩ := s.lt_firstFresh b
  have hlater : ∀ c ∈ b.components,
      c.entity < s.firstFresh b + Batch.unassignedCount b.entities :=
    fun c hc => Nat.lt_add_right _ (hcomponents c hc)
  have hle := (entity_of_mem_placedFrom hc).1
  have hkeys : ((placedFrom (s.firstFresh b + Batch.unassignedCount b.entities)
      (gather b.loose)).map (·.id)).Nodup :=
    nodup_ids_placedFrom (gathered_gather b.loose).distinct
  refine lastAt_of_unique ?_ fun c' hc' heq => ?_
  · exact List.mem_append_right _ ((Batch.mem_assigned_iff hlater).2 hc).1
  have howner : c'.entity = c.entity := congrArg ComponentId.entity heq
  rcases List.mem_append.1 hc' with hc' | hc'
  -- what the entities bring has earlier ids
  · rw [← howner] at hle
    rcases entity_of_mem_assignEntities hc' with ⟨e, he, hown⟩ | ⟨-, hlt⟩
    · rw [hown] at hle
      exact absurd (Nat.lt_add_right _ (hentities e he)) (Nat.not_lt.2 hle)
    · exact absurd hlt (Nat.not_lt.2 hle)
  · rw [← howner] at hle
    have hplaced := (Batch.mem_assigned_iff hlater).1 ⟨hc', hle⟩
    exact List.inj_on_of_nodup_map hkeys hplaced hc heq

/-! ## Where ids run out -/

theorem allocate_error {e : StoreError} (h : p.allocate = .error e) :
    e = .idsExhausted .entity := by
  unfold Plan.allocate at h
  split at h
  · cases h
  · exact (Except.error.inj h).symm

/-- Entities by registered definitions are refused for want of ids only. -/
theorem planEntities_error {entities : List Entity} {err : StoreError}
    (hreg : ∀ e ∈ entities, ∀ c ∈ e.components.values, (r.byId? c.defId).isSome)
    (h : planEntities s r p entities = .error err) : err = .idsExhausted .entity := by
  induction entities generalizing p with
  | nil => cases h
  | cons e rest ih =>
    obtain ⟨hrows, hrest⟩ := List.forall_mem_cons.1 hreg
    rw [planEntities] at h
    cases hid : p.idFor e with
    | error err' =>
      rw [hid] at h
      obtain rfl := Except.error.inj h
      unfold Plan.idFor at hid
      split at hid
      · exact allocate_error hid
      · cases hid
    | ok a =>
      obtain ⟨id, p'⟩ := a
      rw [hid] at h
      dsimp only at h
      rw [Plan.planRows_eq_ok_iff.2 ⟨hrows, rfl⟩] at h
      exact ih hrest h

/-- Components by registered definitions are refused for want of ids only. -/
theorem planComponents_error {components : List Component} {current : Option Gathering}
    {err : StoreError} (hreg : ∀ c ∈ components, (r.byId? c.defId).isSome)
    (h : planComponents r p current components = .error err) : err = .idsExhausted .entity := by
  have hmap {α : Type} {f : EntityId × Plan → α} {p : Plan} {err : StoreError}
      (h : p.allocate.map f = .error err) : err = .idsExhausted .entity := by
    cases halloc : p.allocate with
    | error err' =>
      rw [halloc] at h
      obtain rfl := Except.error.inj h
      exact allocate_error halloc
    | ok a =>
      rw [halloc] at h
      cases h
  induction components generalizing p current with
  | nil => cases h
  | cons c rest ih =>
    obtain ⟨hc, hrest⟩ := List.forall_mem_cons.1 hreg
    have hcheck : checkComponent r c = .ok () := if_pos hc
    rw [planComponents, hcheck] at h
    dsimp only at h
    split at h
    · exact ih hrest h
    · cases hgather : p.gather current c.defId with
      | error err' =>
        rw [hgather] at h
        obtain rfl := Except.error.inj h
        unfold Plan.gather at hgather
        split at hgather
        · split at hgather
          · exact hmap hgather
          · cases hgather
        · exact hmap hgather
      | ok a =>
        rw [hgather] at h
        exact ih hrest h

/-- **An addition by registered definitions** goes through if and only if there are as many
fresh ids as it needs, and is refused for want of ids otherwise. -/
theorem add_eq_of_registered (hcap : Capped s.nextEntity) {item : Item} (options : CallOptions)
    (hschemas : registerAll s.shadowing s.registry item.batch.schemas = .ok r)
    (hparts : ∀ c ∈ item.batch.parts, (r.byId? c.defId).isSome) :
    (item.batch.freshCount ≤ (s.freshIds item.batch).card → ∃ t, s.add item options = .ok t) ∧
      ((s.freshIds item.batch).card < item.batch.freshCount →
        s.add item options = .error (.idsExhausted .entity)) := by
  rw [card_freshIds]
  rw [add_eq, hschemas]
  dsimp only
  constructor
  · intro hroom
    rw [(plan_eq_ok_iff hcap).2 ⟨hparts, hroom, rfl⟩]
    exact ⟨_, rfl⟩
  · intro hfew
    cases hplan : s.plan r item.batch with
    | ok p => exact absurd ((plan_eq_ok_iff hcap).1 hplan).2.1 (Nat.not_le.2 hfew)
    | error err =>
      obtain ⟨hentities, hcomponents⟩ := List.forall_mem_append.1 hparts
      have hrows : ∀ e ∈ item.batch.entities, ∀ c ∈ e.components.values,
          (r.byId? c.defId).isSome := fun e he c hc =>
        hentities c (List.mem_flatMap.2 ⟨e, he, hc⟩)
      have herror : err = .idsExhausted .entity := by
        unfold plan at hplan
        split at hplan
        · rename_i hplanned
          obtain rfl := Except.error.inj hplan
          exact planEntities_error hrows hplanned
        · split at hplan
          · rename_i hplanned
            obtain rfl := Except.error.inj hplan
            exact planComponents_error hcomponents hplanned
          · cases hplan
      rw [herror]

/-! ## Additions -/

/-- **An id that nobody has had**: it can be given away, the batch does not name it, and no
entity of that id was ever stored. -/
structure Fresh (shadowing : Bool) (calls : List Call) (b : Batch) (id : EntityId) : Prop where
  assigned : id ≠ unassigned
  capped : id ≤ maxEntityId
  unnamed : (∀ e ∈ b.entities, e.id ≠ id) ∧ ∀ c ∈ b.components, c.entity ≠ id
  never_stored : NeverStored shadowing calls id

theorem fresh_of_firstFresh_le (shadowing : Bool) (calls : List Call) (b : Batch)
    (h : ((empty shadowing).afterAll calls).firstFresh b ≤ e) (he : e < idBound) :
    Fresh shadowing calls b e := by
  obtain ⟨hpos, hentities, hcomponents⟩ := ((empty shadowing).afterAll calls).lt_firstFresh b
  refine ⟨?_, Nat.le_of_lt_succ he, ⟨fun e' he' => ?_, fun c hc => ?_⟩, ?_⟩
  · exact (Nat.ne_of_lt (Nat.lt_of_lt_of_le hpos h)).symm
  · exact Nat.ne_of_lt (Nat.lt_of_lt_of_le (hentities e' he') h)
  · exact Nat.ne_of_lt (Nat.lt_of_lt_of_le (hcomponents c hc) h)
  · exact neverStored_of_firstFresh_le shadowing calls b h he

section Add

variable {item : Item} {options : CallOptions}

/-- An addition that succeeds gives away ids that there are. -/
theorem firstFresh_add_lt (hs : s.Consistent) (h : s.add item options = .ok t) {k : Nat}
    (hk : k < item.batch.freshCount) : s.firstFresh item.batch + k < idBound := by
  obtain ⟨r, p, -, hplan, -⟩ := add_cases h
  have hroom : item.batch.freshCount ≤ idBound - s.firstFresh item.batch :=
    ((plan_eq_ok_iff hs.capped).1 hplan).2.1
  omega

/-- **An entity without an id** has its own rows under its fresh id, and no others. -/
theorem component?_add_entity (hs : s.Consistent) (h : s.add item options = .ok t) {i : Nat}
    {e : Entity} (he : (item.batch.entities.filter fun e => e.id = unassigned)[i]? = some e)
    (d : DefId) : t.component? ⟨s.firstFresh item.batch + i, d⟩
      = lastAt ⟨s.firstFresh item.batch + i, d⟩
          (e.withId (s.firstFresh item.batch + i)).components.values := by
  have hi : i < Batch.unassignedCount item.batch.entities := by
    rw [Batch.unassignedCount, List.countP_eq_length_filter]
    exact (List.getElem?_eq_some_iff.1 he).1
  have hcount : i < item.batch.freshCount := Nat.lt_of_lt_of_le hi (Nat.le_add_right ..)
  rw [component?_add_fresh hs h (Nat.le_add_right ..) (firstFresh_add_lt hs h hcount)]
  exact s.lastAt_supplied_entity item.batch he d

/-- **The components without an owner** are all there, under the ids of their groups. -/
theorem component?_add_group (hs : s.Consistent) (h : s.add item options = .ok t) {c : Component}
    (hc : c ∈ placedFrom (s.firstFresh item.batch + Batch.unassignedCount item.batch.entities)
      (gather item.batch.loose)) : t.component? c.id = some c := by
  obtain ⟨hle, hlt⟩ := entity_of_mem_placedFrom hc
  have hfirst : s.firstFresh item.batch ≤ c.id.entity :=
    Nat.le_trans (Nat.le_add_right ..) hle
  obtain ⟨k, hk⟩ := Nat.exists_eq_add_of_le hfirst
  have hcount : k < item.batch.freshCount := by
    have hentity : c.entity = s.firstFresh item.batch + k := hk
    rw [hentity, Nat.add_assoc] at hlt
    rw [item.batch.freshCount_eq]
    exact Nat.lt_of_add_lt_add_left hlt
  have hid : c.id.entity < idBound := by
    rw [hk]
    exact firstFresh_add_lt hs h hcount
  rw [component?_add_fresh hs h hfirst hid]
  exact s.lastAt_supplied_group item.batch hc

/-- **A component that names its owner** needs no fresh id. -/
theorem add_component_of_owner (hs : s.Consistent) (options : CallOptions) {c : Component}
    (howner : c.hasEntity = true) (hregistered : (s.definition? (.id c.defId)).isSome) :
    ∃ t, s.add (.component c) options = .ok t ∧
      t.component? c.id = some (rowAfter (s.component? c.id) c) := by
  have howned : ∀ c' ∈ (Item.component c).batch.components, c'.hasEntity = true :=
    fun c' hc' => List.mem_singleton.1 hc' ▸ howner
  have hall : ∀ c' ∈ (Item.component c).batch.components, (s.registry.byId? c'.defId).isSome :=
    fun c' hc' => List.mem_singleton.1 hc' ▸ hregistered
  obtain ⟨t, hadd, -, hrows⟩ := add_placed options hs.capped rfl howned rfl hall
  have hlast : lastAt c.id [c] = some c := by
    rw [lastAt_singleton, if_pos rfl]
  exact ⟨t, hadd, hrows.of_some hlast⟩

end Add

/-- **Fresh ids never collide, and no component is merged or lost.** Take the store after
any calls and an addition to it.

If it succeeds, it has given away consecutive ids from the first fresh one on, and nobody
has had any of these: they are not named by the batch, and no entity of that id was ever
stored. The entities without an id took the first of them in order, and the components
without an owner the others, one id for each group, where the groups are the maximal runs
without a repeated definition, whatever components with owners stand between. Under these
ids there is what the batch brought and nothing else: the rows of the `i`-th entity, and
each component of a group, all at different keys.

Once its schemas and definitions are registered, an addition succeeds if there are as many
fresh ids as it needs and is refused for want of ids if there are not; so no id is given
twice where they run out. What names its ids needs none: the greatest id can always be
used. -/
theorem fresh_ids (shadowing : Bool) (calls : List Call) (item : Item) (options : CallOptions) :
    let s := (empty shadowing).afterAll calls
    let batch := item.batch
    let first := s.firstFresh batch
    let count := Batch.unassignedCount batch.entities
    let groups := gather batch.loose
    (∀ t, s.add item options = .ok t →
      (∀ k < count + groups.length, Fresh shadowing calls batch (first + k)) ∧
      (∀ i e, (batch.entities.filter fun e => e.id = unassigned)[i]? = some e → ∀ d,
        t.component? ⟨first + i, d⟩
          = lastAt ⟨first + i, d⟩ (e.withId (first + i)).components.values) ∧
      Gathered batch.loose groups ∧
      ((placedFrom (first + count) groups).map (·.id)).Nodup ∧
      ∀ c ∈ placedFrom (first + count) groups, t.component? c.id = some c) ∧
    (∀ r, registerAll s.shadowing s.registry batch.schemas = .ok r →
      (∀ c ∈ batch.parts, (r.byId? c.defId).isSome) →
      (count + groups.length ≤ (s.freshIds batch).card → ∃ t, s.add item options = .ok t) ∧
      ((s.freshIds batch).card < count + groups.length →
        s.add item options = .error (.idsExhausted .entity))) ∧
    ∀ c, c.entity = maxEntityId → (s.definition? (.id c.defId)).isSome →
      ∃ t, s.add (.component c) options = .ok t ∧
        t.component? c.id = some (rowAfter (s.component? c.id) c) := by
  have hs : ((empty shadowing).afterAll calls).Consistent :=
    kept_consistent.afterAll (fun _ _ => trivial) (consistent_empty shadowing)
  have hfresh := fun e => @fresh_of_firstFresh_le e shadowing calls item.batch
  dsimp only
  generalize (empty shadowing).afterAll calls = s at hs hfresh
  rw [← item.batch.freshCount_eq]
  refine ⟨fun t h => ?_, fun r hschemas hparts => ?_, fun c hc hregistered => ?_⟩
  · exact ⟨fun k hk => hfresh _ (Nat.le_add_right ..) (firstFresh_add_lt hs h hk),
      fun i e he d => component?_add_entity hs h he d, gathered_gather _,
      nodup_ids_placedFrom (gathered_gather _).distinct, fun c hc => component?_add_group hs h hc⟩
  · exact add_eq_of_registered hs.capped options hschemas hparts
  · have howner : c.hasEntity = true := by
      rw [Component.hasEntity, hc]
      decide
    exact add_component_of_owner hs options howner hregistered

/-- An entity without an id and three notes and tags without an owner, with a note of entity
9 between them, in a store that once had an entity 7: the entity gets the id 10, the first
note and the tag get 11, and the second note 12. -/
theorem fresh_ids_interleaved :
    let note (entity : EntityId) (text : String) : Component :=
      { entity, defId := 1, attributes := Table.ofList [("text", .string text)] }
    let tag (entity : EntityId) : Component := { entity, defId := 2 }
    let calls : List Call := [.register { uri := "/note" }, .register { uri := "/tag" },
      .add (.component (tag 7)) {}, .removeEntities [7] {}]
    let item : Item := .many [.component (note 0 "a"), .component (note 9 "b"),
      .component (tag 0), .entity { id := 0, components := Table.ofList [(1, note 0 "c")] },
      .component (note 0 "d")]
    let s := (empty true).afterAll calls
    ∃ t, s.add item {} = .ok t ∧ t.component? ⟨10, 1⟩ = some (note 10 "c") ∧
      t.component? ⟨11, 1⟩ = some (note 11 "a") ∧ t.component? ⟨11, 2⟩ = some (tag 11) ∧
      t.component? ⟨12, 1⟩ = some (note 12 "d") := by
  intro note tag calls item s
  have hok : (s.add item {}).isOk = true := by decide +kernel
  have hfirst : s.firstFresh item.batch = 10 := by decide +kernel
  cases h : s.add item {} with
  | error e =>
    rw [h] at hok
    cases hok
  | ok t =>
    obtain ⟨-, hentities, -, -, hplaced⟩ := (fresh_ids true calls item {}).1 t h
    have hgroups : placedFrom 11 (gather item.batch.loose)
        = [note 11 "a", tag 11, note 12 "d"] := rfl
    change ∀ c ∈ placedFrom (s.firstFresh item.batch + 1) _, _ at hplaced
    rw [hfirst, hgroups] at hplaced
    have hentity := hentities 0 { id := 0, components := Table.ofList [(1, note 0 "c")] } rfl 1
    change t.component? ⟨s.firstFresh item.batch + 0, 1⟩
      = lastAt ⟨s.firstFresh item.batch + 0, 1⟩ _ at hentity
    rw [hfirst] at hentity
    exact ⟨t, rfl, hentity, hplaced (note 11 "a") (by simp), hplaced (tag 11) (by simp),
      hplaced (note 12 "d") (by simp)⟩

end Store

end EntityBase
