import EntityBase.Proofs.Store.Plan

/-!
# Placement — the ids that a batch receives and the components it supplies

Where planning goes through, what it plans can be said without it. Fresh
ids are given away upwards from `Store.firstFresh`: first to the entities
without an id of their own, then to the groups of components without an
owner (`assignEntities`, `assignComponents`). Under these ids a batch
supplies a list of components, and a plan writes the last one for each key.

`plan_eq_ok_iff` is the exact account of planning: it goes through if and
only if every definition that the batch names is registered and there are
as many fresh ids as it needs, and then the plan is the one described here.
-/

namespace EntityBase

/-! ## Groups of components without an owner -/

/-- Puts a definition into the newest group, or into one of its own if that
group has it already. The newest group stands first. -/
def groupWith : List (List DefId) → DefId → List (List DefId)
  | group :: older, d => if d ∈ group then [d] :: group :: older else (d :: group) :: older
  | [], d => [[d]]

/-- The groups after some components: those without an owner are gathered one
after another. -/
def looseGroups (groups : List (List DefId)) (components : List Component) : List (List DefId) :=
  ((components.filter fun c => !c.hasEntity).map (·.defId)).foldl groupWith groups

theorem looseGroups_cons_owned {groups : List (List DefId)} {c : Component} {rest : List Component}
    (h : c.hasEntity = true) : looseGroups groups (c :: rest) = looseGroups groups rest := by
  simp [looseGroups, h]

theorem looseGroups_cons_loose {groups : List (List DefId)} {c : Component} {rest : List Component}
    (h : c.hasEntity = false) :
    looseGroups groups (c :: rest) = looseGroups (groupWith groups c.defId) rest := by
  simp [looseGroups, h]

theorem length_groupWith (groups : List (List DefId)) (d : DefId) :
    (groupWith groups d).length = groups.length ∨
      (groupWith groups d).length = groups.length + 1 := by
  unfold groupWith
  split
  · split <;> simp
  · simp

theorem length_le_looseGroups (groups : List (List DefId)) (components : List Component) :
    groups.length ≤ (looseGroups groups components).length := by
  unfold looseGroups
  induction (components.filter fun c => !c.hasEntity).map (·.defId) generalizing groups with
  | nil => exact Nat.le_refl _
  | cons d rest ih =>
    have hrest := ih (groupWith groups d)
    have hstep := length_groupWith groups d
    rw [List.foldl_cons]
    omega

/-! ## The batch under its ids -/

/-- Entities under the ids that they get: their own, or else the ids from `next`
on, one after another. -/
def assignEntities (next : Nat) : List Entity → List Entity
  | [] => []
  | e :: rest =>
    if e.id = unassigned then e.withId next :: assignEntities (next + 1) rest
    else e.withId e.id :: assignEntities next rest

/-- Components under the ids that they get: their own, or else that of their
group. The groups have the ids from `first` on, one after another. -/
def assignComponents (first : Nat) (groups : List (List DefId)) :
    List Component → List Component
  | [] => []
  | c :: rest =>
    if c.hasEntity then c :: assignComponents first groups rest
    else
      { c with entity := first + ((groupWith groups c.defId).length - 1) } ::
        assignComponents first (groupWith groups c.defId) rest

namespace Batch

/-- The number of entities without an id of their own. -/
def unassignedCount (entities : List Entity) : Nat :=
  entities.countP fun e => e.id = unassigned

/-- The number of fresh ids that a batch needs: one for each entity without an id
of its own and one for each group of components without an owner. -/
def freshCount (b : Batch) : Nat :=
  unassignedCount b.entities + (looseGroups [] b.components).length

/-- The components that a batch brings along, those of its entities first. -/
def parts (b : Batch) : List Component :=
  (b.entities.flatMap fun e => e.components.values) ++ b.components

/-- The entities of a batch whose fresh ids start at `first`. -/
def placedEntities (b : Batch) (first : Nat) : List Entity :=
  assignEntities first b.entities

/-- The components that a batch supplies when its fresh ids start at `first`, those
of its entities first. -/
def supplied (b : Batch) (first : Nat) : List Component :=
  ((b.placedEntities first).flatMap fun e => e.components.values) ++
    assignComponents (first + unassignedCount b.entities) [] b.components

end Batch

/-- The last of some components with the given key. -/
def lastAt (id : ComponentId) (components : List Component) : Option Component :=
  (components.filter fun c => c.id = id).getLast?

theorem lastAt_append (id : ComponentId) (a b : List Component) :
    lastAt id (a ++ b) = (lastAt id b).or (lastAt id a) := by
  simp [lastAt, List.getLast?_append]

theorem lastAt_singleton (id : ComponentId) (c : Component) :
    lastAt id [c] = if c.id = id then some c else none := by
  by_cases h : c.id = id <;> simp [lastAt, h]

namespace Store

/-! ## Fresh ids -/

/-- The number that all ids lie below. -/
def idBound : Nat := maxEntityId + 1

/-- The next free id where numbers from `n` on are free: `n` itself, if it is an id. -/
def freeFrom (n : Nat) : Option EntityId := if n < idBound then some n else none

theorem after?_eq_freeFrom (n : Nat) : Plan.after? n = freeFrom (n + 1) := by
  unfold Plan.after? freeFrom idBound
  simp only [Nat.succ_lt_succ_iff]

/-- The first id that a batch can be given: it lies past every id that the batch
names itself and not below the next free one. If there is none left, the number
lies past all ids. -/
def firstFresh (s : Store) (b : Batch) : Nat :=
  max (s.nextEntity.getD idBound) (explicitMax b.entities b.components + 1)

theorem startPlan_eq {s : Store} (hcap : Capped s.nextEntity) (b : Batch) :
    s.startPlan b.entities b.components = { nextEntity := freeFrom (s.firstFresh b) } := by
  unfold startPlan
  rw [after?_eq_freeFrom]
  congr 1
  unfold firstFresh freeFrom
  cases hnext : s.nextEntity with
  | none =>
    have hpast : ¬ max idBound (explicitMax b.entities b.components + 1) < idBound :=
      fun h => Nat.lt_irrefl _ (Nat.max_lt.1 h).1
    rw [Option.getD_none, if_neg hpast]
    split <;> rfl
  | some n =>
    have hn : n < idBound := Nat.lt_succ_of_le (hcap n hnext)
    rw [Option.getD_some]
    by_cases hlt : explicitMax b.entities b.components + 1 < idBound
    · rw [if_pos hlt, if_pos (Nat.max_lt.2 ⟨hn, hlt⟩)]
      rfl
    · rw [if_neg hlt, if_neg fun h => hlt (Nat.max_lt.1 h).2]
      rfl

namespace Plan

variable {s : Store} {r : Registry} {p q : Plan} {n : Nat}

/-- The plan with another next free id. -/
def withNext (p : Plan) (next : Option EntityId) : Plan := { p with nextEntity := next }

@[simp] theorem nextEntity_withNext {next : Option EntityId} :
    (p.withNext next).nextEntity = next := rfl

@[simp] theorem withNext_withNext {next next' : Option EntityId} :
    (p.withNext next).withNext next' = p.withNext next' := rfl

theorem withNext_self (hp : p.nextEntity = freeFrom n) : p.withNext (freeFrom n) = p := by
  rw [← hp]
  rfl

/-- **Giving away an id** succeeds as long as the next number is an id at all. -/
theorem allocate_eq (hp : p.nextEntity = freeFrom n) :
    p.allocate = if n < idBound then .ok (n, p.withNext (freeFrom (n + 1)))
      else .error (.idsExhausted .entity) := by
  unfold allocate
  rw [hp, freeFrom]
  by_cases hn : n < idBound
  · rw [if_pos hn, if_pos hn]
    dsimp only
    rw [after?_eq_freeFrom]
    rfl
  · rw [if_neg hn, if_neg hn]

theorem allocate_eq_ok_iff (hp : p.nextEntity = freeFrom n) {id : EntityId} :
    p.allocate = .ok (id, q) ↔
      n < idBound ∧ id = n ∧ q = p.withNext (freeFrom (n + 1)) := by
  rw [allocate_eq hp]
  by_cases hn : n < idBound
  · simp only [hn, if_true, Except.ok.injEq, Prod.mk.injEq, true_and]
    exact and_congr eq_comm eq_comm
  · simp [hn]

/-! ## Rows -/

/-- Plans to write components one after another. -/
def writeAll (p : Plan) (components : List Component) : Plan := components.foldl write p

@[simp] theorem writeAll_nil : p.writeAll [] = p := rfl

@[simp] theorem writeAll_cons {c : Component} {rest : List Component} :
    p.writeAll (c :: rest) = (p.write c).writeAll rest := rfl

@[simp] theorem nextEntity_writeAll {components : List Component} :
    (p.writeAll components).nextEntity = p.nextEntity := by
  induction components generalizing p with
  | nil => rfl
  | cons c rest ih => exact ih (p := p.write c)

@[simp] theorem removals_writeAll {components : List Component} :
    (p.writeAll components).removals = p.removals := by
  induction components generalizing p with
  | nil => rfl
  | cons c rest ih => exact ih (p := p.write c)

/-- Which ids are free makes no difference to what is written. -/
theorem writeAll_withNext {components : List Component} {next : Option EntityId} :
    (p.withNext next).writeAll components
      = (p.writeAll components).withNext next := by
  induction components generalizing p with
  | nil => rfl
  | cons c rest ih => exact ih (p := p.write c)

theorem upserts_writeAll {components : List Component} (id : ComponentId) :
    (p.writeAll components).upserts.get? id
      = (lastAt id components).or (p.upserts.get? id) := by
  induction components generalizing p with
  | nil => rfl
  | cons c rest ih =>
    rw [writeAll_cons, ih, ← List.singleton_append, lastAt_append, lastAt_singleton, Option.or_assoc]
    congr 1
    by_cases hid : c.id = id
    · subst hid
      simp [write]
    · simp [write, hid, Table.get?_insert_of_ne _ _ (Ne.symm hid)]

/-- **The rows of one entity** are planned if all of their definitions are
registered. -/
theorem planRows_eq_ok_iff {id : EntityId} {rows : List Component} :
    planRows r id p rows = .ok q ↔
      (∀ c ∈ rows, (r.byId? c.defId).isSome) ∧
        q = p.writeAll (rows.map fun c => { c with entity := id }) := by
  induction rows generalizing p with
  | nil => simp [planRows, @eq_comm _ p q]
  | cons c rest ih =>
    rw [planRows]
    by_cases hreg : (r.byId? c.defId).isSome = true
    · have hcheck : checkComponent r { c with entity := id } = .ok () := if_pos hreg
      rw [hcheck]
      dsimp only
      rw [ih (p := p.write { c with entity := id })]
      simp [hreg]
    · have hcheck : ∃ e, checkComponent r { c with entity := id } = .error e := ⟨_, if_neg hreg⟩
      obtain ⟨e, he⟩ := hcheck
      rw [he]
      simp [hreg]

/-! ## The entities of a batch -/

/-- Plans one entity under its id: its rows are replaced. -/
def placeEntity (s : Store) (p : Plan) (e : Entity) : Plan :=
  (p.replace s e.id).writeAll e.components.values

/-- Plans entities under their ids, one after another. -/
def placeEntities (s : Store) (p : Plan) (entities : List Entity) : Plan :=
  entities.foldl (placeEntity s) p

theorem placeEntities_withNext {entities : List Entity} {next : Option EntityId} :
    (p.withNext next).placeEntities s entities
      = (p.placeEntities s entities).withNext next := by
  induction entities generalizing p with
  | nil => rfl
  | cons e rest ih =>
    have hstep : (p.withNext next).placeEntity s e
        = (p.placeEntity s e).withNext next :=
      writeAll_withNext (p := p.replace s e.id)
    change ((p.withNext next).placeEntity s e).placeEntities s rest = _
    rw [hstep, ih]
    rfl

theorem upserts_placeEntities {entities : List Entity} (id : ComponentId) :
    (p.placeEntities s entities).upserts.get? id
      = (lastAt id (entities.flatMap fun e => e.components.values)).or (p.upserts.get? id) := by
  induction entities generalizing p with
  | nil => rfl
  | cons e rest ih =>
    have hstep : (p.placeEntity s e).upserts.get? id
        = (lastAt id e.components.values).or (p.upserts.get? id) :=
      upserts_writeAll (p := p.replace s e.id) id
    change ((p.placeEntity s e).placeEntities s rest).upserts.get? id = _
    rw [ih, hstep, List.flatMap_cons, lastAt_append, Option.or_assoc]

/-- Every row of a replaced entity is marked for removal. -/
theorem contains_removals_replace {e : EntityId} {id : ComponentId} :
    (p.replace s e).removals.contains id = true ↔
      p.removals.contains id = true ∨ e = id.entity ∧ s.components.contains id = true := by
  have hentries : (p.replace s e).removals.entries
      = Entries.extend p.removals.entries ((s.rowsOf e).map fun row => (row.1, ())) := by
    rw [← Table.entries_foldl_insert, List.foldl_map]
    rfl
  unfold Table.contains Table.get?
  rw [hentries, Entries.isSome_get?_extend, or_comm]
  refine or_congr Iff.rfl ?_
  simp only [Store.rowsOf, List.mem_map, List.mem_filter, beq_iff_eq, Prod.mk.injEq]
  constructor
  · rintro ⟨_, ⟨j, c⟩, ⟨hrow, rfl⟩, rfl, _⟩
    exact ⟨rfl, Option.isSome_iff_exists.2 ⟨c, Table.mem_entries_iff.1 hrow⟩⟩
  · rintro ⟨rfl, hid⟩
    obtain ⟨c, hc⟩ := Option.isSome_iff_exists.1 hid
    exact ⟨(), (id, c), ⟨Table.mem_entries_iff.2 hc, rfl⟩, rfl, trivial⟩

theorem contains_removals_placeEntities {entities : List Entity} {id : ComponentId} :
    (p.placeEntities s entities).removals.contains id = true ↔
      p.removals.contains id = true ∨
        (∃ e ∈ entities, e.id = id.entity) ∧ s.components.contains id = true := by
  induction entities generalizing p with
  | nil => simp [placeEntities]
  | cons e rest ih =>
    have hstep : (p.placeEntity s e).removals = (p.replace s e.id).removals := removals_writeAll
    change ((p.placeEntity s e).placeEntities s rest).removals.contains id = true ↔ _
    rw [ih, hstep, contains_removals_replace]
    simp only [List.mem_cons, or_and_right, or_assoc, exists_or, exists_eq_left]

theorem values_withId (e : Entity) (id : EntityId) :
    (e.withId id).components.values = e.components.values.map fun c => { c with entity := id } := by
  simp [Entity.withId, Table.values, List.map_map, Function.comp_def]

theorem placeEntities_cons {e : Entity} {rest : List Entity} :
    p.placeEntities s (e :: rest) = (p.placeEntity s e).placeEntities s rest := rfl

theorem placeEntity_withId {e : Entity} {id : EntityId} :
    p.placeEntity s (e.withId id)
      = (p.replace s id).writeAll (e.components.values.map fun c => { c with entity := id }) := by
  rw [placeEntity, values_withId]
  rfl

/-- An entity and those after it: it gets an id, its rows are planned, and then the
others. -/
theorem planEntities_cons_eq_ok_iff {e : Entity} {rest : List Entity} :
    planEntities s r p (e :: rest) = .ok q ↔
      ∃ id p', p.idFor e = .ok (id, p') ∧
        (∀ c ∈ e.components.values, (r.byId? c.defId).isSome) ∧
        planEntities s r (p'.placeEntity s (e.withId id)) rest = .ok q := by
  rw [planEntities]
  constructor
  · intro h
    cases hid : p.idFor e with
    | error err =>
      rw [hid] at h
      cases h
    | ok a =>
      obtain ⟨id, p'⟩ := a
      rw [hid] at h
      dsimp only at h
      cases hrows : planRows r id (p'.replace s id) e.components.values with
      | error err =>
        rw [hrows] at h
        cases h
      | ok q' =>
        obtain ⟨hreg, rfl⟩ := planRows_eq_ok_iff.1 hrows
        rw [hrows] at h
        rw [← placeEntity_withId] at h
        exact ⟨id, p', rfl, hreg, h⟩
  · rintro ⟨id, p', hid, hreg, h⟩
    rw [hid]
    dsimp only
    rw [planRows_eq_ok_iff.2 ⟨hreg, rfl⟩, ← placeEntity_withId]
    exact h

/-- **The entities of a batch** are planned if and only if the definitions of their
components are registered and there is an id for each. -/
theorem planEntities_eq_ok_iff {entities : List Entity} (hp : p.nextEntity = freeFrom n) :
    planEntities s r p entities = .ok q ↔
      (∀ e ∈ entities, ∀ c ∈ e.components.values, (r.byId? c.defId).isSome) ∧
        Batch.unassignedCount entities ≤ idBound - n ∧
        q = (p.placeEntities s (assignEntities n entities)).withNext
          (freeFrom (n + Batch.unassignedCount entities)) := by
  induction entities generalizing p n with
  | nil =>
    simp [planEntities, Batch.unassignedCount, assignEntities, placeEntities, withNext_self hp,
      @eq_comm _ p q]
  | cons e rest ih =>
    rw [planEntities_cons_eq_ok_iff, Plan.idFor, assignEntities, List.forall_mem_cons]
    by_cases hid : e.id = unassigned
    -- the entity takes the next id, and the others start one further on
    · have hcount : Batch.unassignedCount (e :: rest) = Batch.unassignedCount rest + 1 := by
        simp [Batch.unassignedCount, hid]
      have hnumber : n + (Batch.unassignedCount rest + 1) = n + 1 + Batch.unassignedCount rest := by
        omega
      rw [if_pos hid, if_pos hid, hcount, hnumber, placeEntities_cons]
      have hnext : (p.withNext (freeFrom (n + 1))).placeEntity s (e.withId n)
          = (p.placeEntity s (e.withId n)).withNext (freeFrom (n + 1)) :=
        writeAll_withNext (p := p.replace s n)
      constructor
      · rintro ⟨id, p', halloc, hreg, hrest⟩
        obtain ⟨hn, rfl, rfl⟩ := (allocate_eq_ok_iff hp).1 halloc
        rw [hnext, ih rfl, placeEntities_withNext] at hrest
        exact ⟨⟨hreg, hrest.1⟩, by omega, hrest.2.2⟩
      · rintro ⟨⟨hreg, hrest⟩, hle, hq⟩
        refine ⟨n, _, (allocate_eq_ok_iff hp).2 ⟨by omega, rfl, rfl⟩, hreg, ?_⟩
        rw [hnext, ih rfl, placeEntities_withNext]
        exact ⟨hrest, by omega, hq⟩
    · have hcount : Batch.unassignedCount (e :: rest) = Batch.unassignedCount rest := by
        simp [Batch.unassignedCount, hid]
      have hnext : (p.placeEntity s (e.withId e.id)).nextEntity = freeFrom n := by
        rw [placeEntity, nextEntity_writeAll]
        exact hp
      rw [if_neg hid, if_neg hid, hcount, placeEntities_cons]
      constructor
      · rintro ⟨id, p', hown, hreg, hrest⟩
        obtain ⟨rfl, rfl⟩ := Prod.mk.inj (Except.ok.inj hown)
        obtain ⟨hall, hle, hq⟩ := (ih hnext).1 hrest
        exact ⟨⟨hreg, hall⟩, hle, hq⟩
      · rintro ⟨⟨hreg, hrest⟩, hle, hq⟩
        exact ⟨e.id, p, rfl, hreg, (ih hnext).2 ⟨hrest, hle, hq⟩⟩

/-! ## The components of a batch -/

/-- The current gathering is the newest group: it has the id of that group and has
seen its definitions. -/
def Tallies (first : Nat) : List (List DefId) → Option Gathering → Prop
  | [], none => True
  | group :: older, some g =>
    g.id = first + older.length ∧ ∀ d, g.seen.contains d = true ↔ d ∈ group
  | _, _ => False

variable {first : Nat} {groups : List (List DefId)} {current : Option Gathering}

/-- **Gathering a component**: its group is the newest one or takes the next id, as
long as there is one, and is the current gathering then. -/
theorem gather_eq (hp : p.nextEntity = freeFrom (first + groups.length))
    (hcurrent : Tallies first groups current) (d : DefId) :
    ∃ g, Tallies first (groupWith groups d) (some g) ∧
      p.gather current d =
        if (groupWith groups d).length = groups.length ∨ first + groups.length < idBound then
          .ok (g, p.withNext (freeFrom (first + (groupWith groups d).length)))
        else .error (.idsExhausted .entity) := by
  have hseen : ∀ e, (Bitfield.empty.insert d).contains e = true ↔ e ∈ [d] := by
    simp [eq_comm]
  match groups, current, hcurrent with
  | [], none, _ =>
    refine ⟨⟨first, Bitfield.empty.insert d⟩, ⟨rfl, hseen⟩, ?_⟩
    rw [Plan.gather, allocate_eq hp]
    by_cases hn : first < idBound <;> simp [groupWith, hn, Except.map]
  | group :: older, some g, ⟨hid, hgroup⟩ =>
    rw [Plan.gather]
    dsimp only
    by_cases hd : d ∈ group
    · refine ⟨⟨first + (older.length + 1), Bitfield.empty.insert d⟩, ?_, ?_⟩
      · rw [groupWith, if_pos hd]
        exact ⟨rfl, hseen⟩
      · rw [if_pos ((hgroup d).2 hd), allocate_eq hp, groupWith, if_pos hd]
        by_cases hn : first + (older.length + 1) < idBound <;>
          simp [hn, Except.map, Nat.add_assoc]
    · refine ⟨{ g with seen := g.seen.insert d }, ?_, ?_⟩
      · rw [groupWith, if_neg hd]
        refine ⟨hid, fun e => ?_⟩
        simp [hgroup, or_comm, @eq_comm _ d e]
      · have hlength : ((d :: group) :: older).length = (group :: older).length := rfl
        rw [if_neg fun h => hd ((hgroup d).1 h), groupWith, if_neg hd, hlength, if_pos (Or.inl rfl),
          ← hp]
        rfl

theorem Tallies.id_eq {g : Gathering} (h : Tallies first groups (some g)) :
    g.id = first + (groups.length - 1) := by
  match groups, h with
  | group :: older, ⟨hid, _⟩ => exact hid

/-- **The components of a batch** are planned if and only if their definitions are
registered and there is an id for each new group. -/
theorem planComponents_eq_ok_iff {components : List Component}
    (hp : p.nextEntity = freeFrom (first + groups.length))
    (hcurrent : Tallies first groups current) :
    planComponents r p current components = .ok q ↔
      (∀ c ∈ components, (r.byId? c.defId).isSome) ∧
        (looseGroups groups components).length
          ≤ groups.length + (idBound - (first + groups.length)) ∧
        q = (p.writeAll (assignComponents first groups components)).withNext
          (freeFrom (first + (looseGroups groups components).length)) := by
  induction components generalizing p groups current with
  | nil =>
    simp [planComponents, looseGroups, assignComponents, withNext_self hp, @eq_comm _ p q]
  | cons c rest ih =>
    rw [planComponents, List.forall_mem_cons, assignComponents]
    by_cases hreg : (r.byId? c.defId).isSome = true
    · have hcheck : checkComponent r c = .ok () := if_pos hreg
      rw [hcheck]
      dsimp only
      by_cases hown : c.hasEntity = true
      · rw [if_pos hown, if_pos hown, looseGroups_cons_owned hown, ih (p := p.write c) hp hcurrent]
        simp [hreg]
      · have hloose : c.hasEntity = false := by simpa using hown
        rw [if_neg hown, if_neg hown, looseGroups_cons_loose hloose]
        obtain ⟨g, hg, hgather⟩ := gather_eq hp hcurrent c.defId
        rw [hgather]
        have hlength := length_groupWith groups c.defId
        have hlater := length_le_looseGroups (groupWith groups c.defId) rest
        by_cases hroom : (groupWith groups c.defId).length = groups.length ∨
            first + groups.length < idBound
        · rw [if_pos hroom]
          dsimp only
          have hwrite : ∀ next d, (p.withNext next).write d = (p.write d).withNext next :=
            fun _ _ => rfl
          rw [hwrite, ih nextEntity_withNext hg, ← hg.id_eq, writeAll_cons, writeAll_withNext]
          -- a new group takes one of the ids that are left
          have hleft : (groupWith groups c.defId).length
              + (idBound - (first + (groupWith groups c.defId).length))
              = groups.length + (idBound - (first + groups.length)) := by
            omega
          rw [hleft]
          simp [hreg]
        · rw [if_neg hroom]
          refine iff_of_false (fun h => by cases h) fun h => ?_
          have hle := h.2.1
          omega
    · have hcheck : ∃ e, checkComponent r c = .error e := ⟨_, if_neg hreg⟩
      obtain ⟨e, he⟩ := hcheck
      rw [he]
      simp [hreg]

/-- Where no group is there yet, each group takes a fresh id. -/
theorem planComponents_none_eq_ok_iff {components : List Component}
    (hp : p.nextEntity = freeFrom first) :
    planComponents r p none components = .ok q ↔
      (∀ c ∈ components, (r.byId? c.defId).isSome) ∧
        (looseGroups [] components).length ≤ idBound - first ∧
        q = (p.writeAll (assignComponents first [] components)).withNext
          (freeFrom (first + (looseGroups [] components).length)) := by
  have hnone : Tallies first [] none := trivial
  rw [planComponents_eq_ok_iff hp hnone]
  simp

end Plan

/-! ## Whole batches -/

variable {s : Store} {r : Registry} {b : Batch} {p : Plan}

/-- What is planned for the entities and the components of a batch, before the rows
that are written are spared. -/
def placed (s : Store) (b : Batch) : Plan :=
  ((Plan.placeEntities s { nextEntity := none } (b.placedEntities (s.firstFresh b))).writeAll
    (assignComponents (s.firstFresh b + Batch.unassignedCount b.entities) [] b.components)).withNext
      (freeFrom (s.firstFresh b + b.freshCount))

/-- **Planning goes through if and only if** the definitions of a batch are
registered and there are as many fresh ids as it needs. -/
theorem plan_eq_ok_iff (hcap : Capped s.nextEntity) :
    s.plan r b = .ok p ↔
      (∀ c ∈ b.parts, (r.byId? c.defId).isSome) ∧
        b.freshCount ≤ idBound - s.firstFresh b ∧
        p = { s.placed b with
          removals := (s.placed b).upserts.keys.foldl Table.erase (s.placed b).removals } := by
  have hparts : (∀ c ∈ b.parts, (r.byId? c.defId).isSome) ↔
      (∀ e ∈ b.entities, ∀ c ∈ e.components.values, (r.byId? c.defId).isSome) ∧
        ∀ c ∈ b.components, (r.byId? c.defId).isSome := by
    simp only [Batch.parts, List.forall_mem_append, List.forall_mem_flatMap]
  have hstart : s.startPlan b.entities b.components
      = Plan.withNext { nextEntity := none } (freeFrom (s.firstFresh b)) := startPlan_eq hcap b
  have hfirst : (s.startPlan b.entities b.components).nextEntity = freeFrom (s.firstFresh b) := by
    rw [hstart]
    rfl
  -- the groups of the components have their ids after the entities
  have hplaced : ∀ next, (((s.startPlan b.entities b.components).placeEntities s
        (assignEntities (s.firstFresh b) b.entities)).withNext next).writeAll
        (assignComponents (s.firstFresh b + Batch.unassignedCount b.entities) [] b.components)
      = (s.placed b).withNext next := by
    intro next
    rw [hstart, Plan.placeEntities_withNext, Plan.withNext_withNext, Plan.writeAll_withNext]
    rfl
  have hnext : (s.placed b).withNext (freeFrom (s.firstFresh b + Batch.unassignedCount b.entities
      + (looseGroups [] b.components).length)) = s.placed b := by
    rw [Nat.add_assoc]
    rfl
  rw [hparts]
  constructor
  · intro h
    obtain ⟨q, q', hentities, hcomponents, rfl⟩ := plan_cases h
    obtain ⟨hregEntities, hcount, rfl⟩ := (Plan.planEntities_eq_ok_iff hfirst).1 hentities
    obtain ⟨hregComponents, hgroups, rfl⟩ :=
      (Plan.planComponents_none_eq_ok_iff Plan.nextEntity_withNext).1 hcomponents
    rw [hplaced, Plan.withNext_withNext, hnext]
    refine ⟨⟨hregEntities, hregComponents⟩, ?_, rfl⟩
    simp only [Batch.freshCount]
    omega
  · rintro ⟨⟨hregEntities, hregComponents⟩, hcount, rfl⟩
    simp only [Batch.freshCount] at hcount
    unfold plan
    rw [(Plan.planEntities_eq_ok_iff hfirst).2 ⟨hregEntities, by omega, rfl⟩]
    dsimp only
    rw [(Plan.planComponents_none_eq_ok_iff Plan.nextEntity_withNext).2
      ⟨hregComponents, by omega, rfl⟩, hplaced, Plan.withNext_withNext, hnext]

section Planned

variable (hcap : Capped s.nextEntity) (h : s.plan r b = .ok p)

include hcap h

/-- **A plan writes** the last component that the batch supplies for a key. -/
theorem upserts_plan (id : ComponentId) :
    p.upserts.get? id = lastAt id (b.supplied (s.firstFresh b)) := by
  obtain ⟨-, -, rfl⟩ := (plan_eq_ok_iff hcap).1 h
  change (s.placed b).upserts.get? id = _
  have hplaced : (s.placed b).upserts.get? id
      = (lastAt id (assignComponents (s.firstFresh b + Batch.unassignedCount b.entities) []
          b.components)).or ((Plan.placeEntities s { nextEntity := none }
            (b.placedEntities (s.firstFresh b))).upserts.get? id) :=
    Plan.upserts_writeAll id
  rw [hplaced, Plan.upserts_placeEntities, Batch.supplied, lastAt_append, Table.get?_empty,
    Option.or_none]

/-- **A plan takes away** the other rows of the entities of the batch. -/
theorem removals_plan_iff {id : ComponentId} :
    p.removals.contains id = true ↔
      lastAt id (b.supplied (s.firstFresh b)) = none ∧
        (∃ e ∈ b.placedEntities (s.firstFresh b), e.id = id.entity) ∧
        s.components.contains id = true := by
  have hupserts := upserts_plan hcap h id
  obtain ⟨-, -, rfl⟩ := (plan_eq_ok_iff hcap).1 h
  have hmarked : (s.placed b).removals.contains id = true ↔
      (∃ e ∈ b.placedEntities (s.firstFresh b), e.id = id.entity) ∧
        s.components.contains id = true := by
    unfold placed Plan.withNext
    rw [Plan.removals_writeAll, Plan.contains_removals_placeEntities]
    simp
  -- what is written is spared
  have hspared : id ∈ (s.placed b).upserts.keys ↔
      lastAt id (b.supplied (s.firstFresh b)) ≠ none := by
    rw [Table.mem_keys_iff, ← hupserts, ← Option.isSome_iff_ne_none]
    rfl
  rw [← hmarked]
  unfold Table.contains
  dsimp only
  rw [Table.get?_foldl_erase]
  by_cases hid : id ∈ (s.placed b).upserts.keys
  · rw [if_pos hid]
    exact iff_of_false (by simp) fun hboth => hspared.1 hid hboth.1
  · have hnone : lastAt id (b.supplied (s.firstFresh b)) = none :=
      Classical.not_not.1 fun hne => hid (hspared.2 hne)
    rw [if_neg hid]
    exact ⟨fun hrow => ⟨hnone, hrow⟩, fun hboth => hboth.2⟩

end Planned

end Store

end EntityBase
