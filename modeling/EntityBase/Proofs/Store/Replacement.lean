import EntityBase.Proofs.Json.Content
import EntityBase.Proofs.Store.Merge

/-!
# Replacement — entities in one batch and one after another

An entity that is added replaces all of its rows. Added one after another, the entities
of a list leave for every id the rows of the last entity of that id (`Replaced`). Added as
one batch they leave for every key the last row that any entity of the list supplies
(`United`): only rows that were stored before are taken away, and so the entities of one
id are united. Both leave the same tables if the last entity of every id supplies all
definitions that the entities of its id supply, and only then
(`batch_unites_entities`).
-/

namespace EntityBase

variable {e : Entity} {entities rest : List Entity} {id : ComponentId} {i : EntityId}
  {c : Component}

/-! ## The last entity of an id -/

/-- The rows that an entity supplies: its components, as its own. -/
def Entity.rows (e : Entity) : List Component :=
  e.components.values.map fun c => { c with entity := e.id }

/-- The last entity with the given id. -/
def lastEntity (i : EntityId) (entities : List Entity) : Option Entity :=
  (entities.filter fun e => e.id = i).getLast?

theorem lastEntity_cons (i : EntityId) (e : Entity) (rest : List Entity) :
    lastEntity i (e :: rest) = (lastEntity i rest).or (if e.id = i then some e else none) := by
  unfold lastEntity
  by_cases h : e.id = i
  · rw [List.filter_cons_of_pos (by simpa using h), if_pos h, List.getLast?_cons]
    cases (rest.filter fun e => e.id = i).getLast? <;> rfl
  · rw [List.filter_cons_of_neg (by simpa using h), if_neg h, Option.or_none]

theorem lastEntity_eq_some_iff {l : Entity} : lastEntity i entities = some l ↔
    ∃ earlier, entities.filter (fun e => e.id = i) = earlier ++ [l] :=
  List.getLast?_eq_some_iff

theorem lastEntity_eq_none_iff : lastEntity i entities = none ↔ ∀ e ∈ entities, e.id ≠ i := by
  unfold lastEntity
  rw [List.getLast?_eq_none_iff, List.filter_eq_nil_iff]
  simp

theorem mem_of_lastEntity {l : Entity} (h : lastEntity i entities = some l) :
    l ∈ entities ∧ l.id = i := by
  have hmem := List.mem_filter.1 (List.mem_of_getLast? h)
  exact ⟨hmem.1, by simpa using hmem.2⟩

theorem exists_lastEntity (h : e ∈ entities) : ∃ l, lastEntity e.id entities = some l := by
  cases hlast : lastEntity e.id entities with
  | some l => exact ⟨l, rfl⟩
  | none => exact absurd rfl (lastEntity_eq_none_iff.1 hlast e h)

/-! ## The rows that entities supply -/

/-- An entity supplies a row for a key of its own id, by a definition of a component. -/
theorem lastAt_rows_ne_none_iff :
    lastAt id e.rows ≠ none ↔ e.id = id.entity ∧ ∃ c ∈ e.components.values, c.defId = id.defId := by
  obtain ⟨entity, defId⟩ := id
  have hrows : (∃ c ∈ e.rows, c.id = ⟨entity, defId⟩) ↔
      e.id = entity ∧ ∃ c ∈ e.components.values, c.defId = defId := by
    simp only [Entity.rows, List.mem_map, exists_exists_and_eq_and, Component.id,
      ComponentId.mk.injEq]
    constructor
    · rintro ⟨c, hc, he, hd⟩
      exact ⟨he, c, hc, hd⟩
    · rintro ⟨he, c, hc, hd⟩
      exact ⟨c, hc, he, hd⟩
  rw [← hrows, Ne, lastAt_eq_none_iff]
  simp

/-- A row that entities supply is a component of one of them, which has its owner's id. -/
theorem exists_of_lastAt (h : lastAt id (entities.flatMap Entity.rows) = some c) :
    ∃ e ∈ entities, e.id = id.entity ∧
      ∃ c' ∈ e.components.values, c'.defId = id.defId ∧ c = { c' with entity := e.id } := by
  obtain ⟨hmem, hid⟩ := List.mem_filter.1 (List.mem_of_getLast? h)
  obtain ⟨e, he, hrow⟩ := List.mem_flatMap.1 hmem
  obtain ⟨c', hc', rfl⟩ := List.mem_map.1 hrow
  obtain rfl : _ = id := by simpa using hid
  exact ⟨e, he, rfl, c', hc', rfl, rfl⟩

theorem lastAt_flatMap_filter (id : ComponentId) (entities : List Entity) :
    lastAt id (entities.flatMap Entity.rows)
      = lastAt id ((entities.filter fun e => e.id = id.entity).flatMap Entity.rows) := by
  induction entities with
  | nil => rfl
  | cons e rest ih =>
    rw [List.flatMap_cons, lastAt_append, ih]
    by_cases h : e.id = id.entity
    · rw [List.filter_cons_of_pos (by simpa using h), List.flatMap_cons, lastAt_append]
    · have hnone : lastAt id e.rows = none :=
        Classical.byContradiction fun hne => h (lastAt_rows_ne_none_iff.1 hne).1
      rw [List.filter_cons_of_neg (by simpa using h), hnone, Option.or_none]

/-- A component that an entity has is a row that its batch supplies. -/
theorem isSome_lastAt_flatMap (he : e ∈ entities) (hc : c ∈ e.components.values) :
    (lastAt ⟨e.id, c.defId⟩ (entities.flatMap Entity.rows)).isSome = true := by
  have hmem : { c with entity := e.id } ∈ entities.flatMap Entity.rows :=
    List.mem_flatMap.2 ⟨e, he, List.mem_map.2 ⟨c, hc, rfl⟩⟩
  exact Option.isSome_iff_ne_none.2 fun hnone => lastAt_eq_none_iff.1 hnone _ hmem rfl

/-- What the last entity of an id supplies comes before what the others do. -/
theorem lastAt_of_lastEntity {l : Entity} (h : lastEntity id.entity entities = some l)
    (hrow : lastAt id l.rows = some c) : lastAt id (entities.flatMap Entity.rows) = some c := by
  obtain ⟨earlier, hfilter⟩ := lastEntity_eq_some_iff.1 h
  rw [lastAt_flatMap_filter, hfilter, List.flatMap_append, lastAt_append, List.flatMap_singleton,
    hrow, Option.some_or]

namespace Store

variable {s t u : Store}

/-! ## Additions of entities -/

theorem batch_many_entities (entities : List Entity) :
    (Item.many (entities.map .entity)).batch = { entities } := by
  change Item.batchAll (entities.map .entity) = _
  induction entities with
  | nil => rfl
  | cons e rest ih =>
    rw [List.map_cons, Item.batchAll, ih]
    rfl

/-- Entities with ids of their own keep them. -/
theorem assignEntities_of_assigned (next : Nat) (h : ∀ e ∈ entities, e.id ≠ unassigned) :
    assignEntities next entities = entities.map fun e => e.withId e.id := by
  induction entities with
  | nil => rfl
  | cons e rest ih =>
    rw [assignEntities, if_neg (h e (List.mem_cons_self ..)),
      ih fun e he => h e (List.mem_cons_of_mem _ he), List.map_cons]

/-- Entities that can be added as they are: they have ids of their own and components by
registered definitions. -/
structure Ready (r : Registry) (entities : List Entity) : Prop where
  assigned : ∀ e ∈ entities, e.id ≠ unassigned
  registered : ∀ e ∈ entities, ∀ c ∈ e.components.values, (r.byId? c.defId).isSome

theorem Ready.of_cons {r : Registry} (h : Ready r (e :: rest)) : Ready r [e] ∧ Ready r rest :=
  ⟨⟨fun f hf => h.assigned f (List.mem_cons.2 (.inl (List.mem_singleton.1 hf))),
      fun f hf => h.registered f (List.mem_cons.2 (.inl (List.mem_singleton.1 hf)))⟩,
    ⟨fun f hf => h.assigned f (List.mem_cons_of_mem _ hf),
      fun f hf => h.registered f (List.mem_cons_of_mem _ hf)⟩⟩

/-- **A batch of such entities is added**, and leaves at every key the last row that they
supply, or none where one of them has the id of the key. -/
theorem add_entities (hs : s.Consistent) {item : Item} (hitem : item.batch = { entities })
    (h : Ready s.registry entities) (options : CallOptions) :
    ∃ t, s.add item options = .ok t ∧ t.registry = s.registry ∧ ∀ id, t.component? id =
      match lastAt id (entities.flatMap Entity.rows) with
      | some c => some (rowAfter (s.component? id) c)
      | none => if ∃ e ∈ entities, e.id = id.entity then none else s.component? id := by
  have hfresh : item.batch.freshCount = 0 := by
    have hcount : Batch.unassignedCount entities = 0 :=
      List.countP_eq_zero.2 fun e he => by simpa using h.assigned e he
    rw [Batch.freshCount, hitem, hcount]
    rfl
  have hparts : ∀ c ∈ item.batch.parts, (s.registry.byId? c.defId).isSome := by
    rw [Batch.parts, hitem, List.append_nil]
    exact List.forall_mem_flatMap.2 h.registered
  obtain ⟨p, hplan⟩ : ∃ p, s.plan s.registry item.batch = .ok p :=
    ⟨_, (plan_eq_ok_iff hs.capped).2 ⟨hparts, by rw [hfresh]; exact Nat.zero_le _, rfl⟩⟩
  have hschemas : registerAll s.shadowing s.registry item.batch.schemas = .ok s.registry := by
    rw [hitem]
    rfl
  have hplaced : item.batch.placedEntities (s.firstFresh item.batch)
      = entities.map fun e => e.withId e.id := by
    rw [Batch.placedEntities, hitem, assignEntities_of_assigned _ h.assigned]
  have hsupplied : item.batch.supplied (s.firstFresh item.batch)
      = entities.flatMap Entity.rows := by
    have hvalues : ∀ e : Entity, (e.withId e.id).components.values = e.rows :=
      fun e => Plan.values_withId e e.id
    rw [Batch.supplied, hplaced, List.flatMap_map, hitem, assignComponents, List.append_nil]
    simp only [hvalues]
  have hregistry := registry_eq_of_header
    (header_apply p ({ s.opened options with registry := s.registry } : Store))
  refine ⟨_, add_of_plan options hschemas hplan, hregistry, fun id => ?_⟩
  have hrow := components_apply_plan hs.capped hplan (components_opened s options s.registry) id
  rw [hsupplied, hplaced] at hrow
  have hnamed : (∃ f ∈ entities.map fun e => e.withId e.id, f.id = id.entity) ↔
      ∃ e ∈ entities, e.id = id.entity := by
    simp [Entity.withId]
  refine hrow.trans ?_
  cases lastAt id (entities.flatMap Entity.rows) with
  | some c => rfl
  | none => exact if_congr hnamed rfl rfl

/-! ## Rows of given contents -/

/-- Whether the components of entities hold numbers where they hold doubles. -/
def WellFormedRows (entities : List Entity) : Prop :=
  ∀ e ∈ entities, ∀ c ∈ e.components.values, Json.WellFormedFields c.attributes.entries

theorem sameRow_rowAfter (hc : Json.WellFormedFields c.attributes.entries)
    (old? : Option Component) : SameRow (some (rowAfter old? c)) (some c) := by
  have hself : c.sameContent c = true := by
    unfold Component.sameContent
    rw [Json.sameFields_self _ hc, beq_self_eq_true]
    rfl
  unfold rowAfter
  split
  · split
    · assumption
    · exact hself
  · exact hself

/-- The rows after one batch: at the keys of the ids of the entities the contents that are
supplied last, and at the others what was there. -/
def United (s : Store) (entities : List Entity) (t : Store) : Prop :=
  ∀ id, if ∃ e ∈ entities, e.id = id.entity then
      SameRow (t.component? id) (lastAt id (entities.flatMap Entity.rows))
    else t.component? id = s.component? id

/-- The rows after one addition for each entity: those of the last entity of every id, and
at the other ids what was there. -/
def Replaced (s : Store) (entities : List Entity) (t : Store) : Prop :=
  ∀ id, match lastEntity id.entity entities with
    | some l => SameRow (t.component? id) (lastAt id l.rows)
    | none => t.component? id = s.component? id

/-- **One batch unites the entities of an id.** -/
theorem add_united (hs : s.Consistent) {item : Item} (hitem : item.batch = { entities })
    (h : Ready s.registry entities) (hrows : WellFormedRows entities) (options : CallOptions) :
    ∃ t, s.add item options = .ok t ∧ t.registry = s.registry ∧ United s entities t := by
  obtain ⟨t, hadd, hregistry, hcomponents⟩ := add_entities hs hitem h options
  refine ⟨t, hadd, hregistry, fun id => ?_⟩
  rw [hcomponents id]
  cases hlast : lastAt id (entities.flatMap Entity.rows) with
  | some c =>
    obtain ⟨e, he, hid, c', hc', -, rfl⟩ := exists_of_lastAt hlast
    rw [if_pos ⟨e, he, hid⟩]
    exact sameRow_rowAfter (c := { c' with entity := e.id }) (hrows e he c' hc') _
  | none =>
    dsimp only
    split
    · trivial
    · rfl

/-- The store after the entities were added one after another. -/
def addEach (s : Store) (entities : List Entity) (options : CallOptions) :
    Except StoreError Store :=
  entities.foldlM (fun s e => s.add (.entity e) options) s

/-- **Additions one after another replace**: what an entity supplies stays until another
of its id is added. -/
theorem addEach_replaced (hs : s.Consistent) (hplain : s.PlainShapes)
    (h : Ready s.registry entities) (hrows : WellFormedRows entities) (options : CallOptions) :
    ∃ u, s.addEach entities options = .ok u ∧ (u.Consistent ∧ u.PlainShapes) ∧
      Replaced s entities u := by
  induction entities generalizing s with
  | nil => exact ⟨s, rfl, ⟨hs, hplain⟩, fun _ => rfl⟩
  | cons e rest ih =>
    obtain ⟨hone, hmore⟩ := h.of_cons
    have hbatch : (Item.entity e).batch = { entities := [e] } := rfl
    obtain ⟨t, hadd, hregistry, hunited⟩ := add_united hs hbatch hone
      (fun f hf => hrows f (List.mem_cons.2 (.inl (List.mem_singleton.1 hf)))) options
    obtain ⟨u, heach, hkept, hreplaced⟩ := ih (hs.add hadd) (hplain.add hadd) (hregistry ▸ hmore)
      fun f hf => hrows f (List.mem_cons_of_mem _ hf)
    refine ⟨u, ?_, hkept, fun id => ?_⟩
    · rw [addEach, List.foldlM_cons, hadd]
      exact heach
    have hafter := hreplaced id
    have hbefore := hunited id
    rw [lastEntity_cons]
    cases hlast : lastEntity id.entity rest with
    | some l =>
      rw [hlast] at hafter
      exact hafter
    | none =>
      rw [hlast] at hafter
      dsimp only at hafter
      by_cases he : e.id = id.entity
      · rw [if_pos ⟨e, List.mem_singleton_self e, he⟩, List.flatMap_singleton] at hbefore
        rw [if_pos he, Option.none_or]
        dsimp only
        rw [hafter]
        exact hbefore
      · rw [if_neg (by simpa using he)] at hbefore
        rw [if_neg he, Option.none_or]
        exact hafter.trans hbefore

/-! ## The same tables -/

/-- Whether two stores have the same tables, up to equality of contents. -/
structure SameTables (t u : Store) : Prop where
  entities : t.entities = u.entities
  components : ∀ id, SameRow (t.component? id) (u.component? id)

/-- Whether the last entity of every id supplies every definition that one of the entities
of its id supplies. -/
def LastSuppliesAll (entities : List Entity) : Prop :=
  ∀ e ∈ entities, ∀ c ∈ e.components.values,
    ∃ l, lastEntity e.id entities = some l ∧ ∃ c' ∈ l.components.values, c'.defId = c.defId

/-- Then a batch leaves to every id the rows of its last entity. -/
theorem LastSuppliesAll.lastAt_eq (hall : LastSuppliesAll entities) {l : Entity}
    (hlast : lastEntity id.entity entities = some l) :
    lastAt id (entities.flatMap Entity.rows) = lastAt id l.rows := by
  cases hrow : lastAt id l.rows with
  | some c => exact lastAt_of_lastEntity hlast hrow
  | none =>
    -- no other entity of the id supplies what the last one does not
    cases hother : lastAt id (entities.flatMap Entity.rows) with
    | none => rfl
    | some c =>
      obtain ⟨e, he, heid, c', hc', hdef, -⟩ := exists_of_lastAt hother
      obtain ⟨l', hl', c'', hc'', hdef'⟩ := hall e he c' hc'
      rw [heid, hlast] at hl'
      obtain rfl := Option.some.inj hl'
      exact absurd hrow (lastAt_rows_ne_none_iff.2
        ⟨(mem_of_lastEntity hlast).2, c'', hc'', hdef'.trans hdef⟩)

/-- Rows of the content of one row have the same content. -/
theorem SameRow.of_sameRow {a b c : Option Component} (ha : SameRow a c) (hb : SameRow b c) :
    SameRow a b := by
  cases c with
  | none =>
    cases a with
    | some a => exact ha.elim
    | none =>
      cases b with
      | some b => exact hb.elim
      | none => trivial
  | some c =>
    cases a with
    | none => exact ha.elim
    | some a =>
      cases b with
      | none => exact hb.elim
      | some b => exact Component.sameContent_of_sameContent ha hb

theorem SameRow.isSome_eq {a b : Option Component} (h : SameRow a b) : a.isSome = b.isSome := by
  cases a <;> cases b <;> first | rfl | exact h.elim

/-- A well-formed row has the content of itself. -/
theorem WellFormed.sameRow_self (hs : s.WellFormed) (id : ComponentId) :
    SameRow (s.component? id) (s.component? id) :=
  Classical.not_not.1 (hs.same_of_eq rfl)

/-- **The tables are the same** if and only if the last entities supply all definitions. -/
theorem sameTables_iff (hs : s.WellFormed) (ht : t.Consistent ∧ t.PlainShapes)
    (hu : u.Consistent ∧ u.PlainShapes) (hunited : United s entities t)
    (hreplaced : Replaced s entities u) : SameTables t u ↔ LastSuppliesAll entities := by
  constructor
  · intro hsame e he c hc
    obtain ⟨l, hl⟩ := exists_lastEntity he
    obtain ⟨-, hid⟩ := mem_of_lastEntity hl
    let id : ComponentId := ⟨e.id, c.defId⟩
    -- the batch leaves a row there, and so the last entity has one
    have hrow := hunited id
    have hafter := hreplaced id
    rw [if_pos ⟨e, he, rfl⟩] at hrow
    have hl' : lastEntity id.entity entities = some l := hl
    rw [hl'] at hafter
    have hlast : (lastAt id l.rows).isSome = true := by
      rw [← hafter.isSome_eq, ← (hsame.components id).isSome_eq, hrow.isSome_eq]
      exact isSome_lastAt_flatMap he hc
    have hsupplied := lastAt_rows_ne_none_iff.1 (Option.isSome_iff_ne_none.1 hlast)
    exact ⟨l, hl, hsupplied.2⟩
  · intro hall
    have hrows : ∀ id, SameRow (t.component? id) (u.component? id) := by
      intro id
      have hrow := hunited id
      have hafter := hreplaced id
      cases hlast : lastEntity id.entity entities with
      | none =>
        rw [hlast] at hafter
        dsimp only at hafter
        have hnone : ¬ ∃ e ∈ entities, e.id = id.entity := by
          rintro ⟨e, he, hid⟩
          exact lastEntity_eq_none_iff.1 hlast e he hid
        rw [if_neg hnone] at hrow
        rw [hrow, hafter]
        exact hs.sameRow_self id
      | some l =>
        rw [hlast] at hafter
        dsimp only at hafter
        obtain ⟨hl, hid⟩ := mem_of_lastEntity hlast
        rw [if_pos ⟨l, hl, hid⟩] at hrow
        rw [hall.lastAt_eq hlast] at hrow
        exact hrow.of_sameRow hafter
    exact ⟨entities_eq_of_keys_eq hu.1 ht.1 hu.2 ht.2 fun id => (hrows id).isSome_eq, hrows⟩

/-- **A batch unites the entities of one id, and additions one after another do not.** Take
the store after any calls with well-formed data, and entities with ids of their own and
well-formed components by registered definitions. Added as one batch they are accepted and
leave at every key of their ids the content that any of them supplies last; added one after
another they are accepted too and leave the rows of the last entity of every id, which
replaces what the others supplied. What has another id is left alone by both. So both leave
the same shapes and the same contents if the last entity of every id supplies all
definitions that the entities of its id supply, and only then. -/
theorem batch_unites_entities (shadowing : Bool) (calls : List Call)
    (hcalls : ∀ call ∈ calls, call.WellFormed) (entities : List Entity)
    (hready : Ready ((empty shadowing).afterAll calls).registry entities)
    (hrows : WellFormedRows entities) (options single : CallOptions) :
    let s := (empty shadowing).afterAll calls
    ∃ t u, s.add (.many (entities.map .entity)) options = .ok t ∧
      s.addEach entities single = .ok u ∧ United s entities t ∧ Replaced s entities u ∧
      (SameTables t u ↔ LastSuppliesAll entities) := by
  have hwell : ((empty shadowing).afterAll calls).Consistent ∧
      ((empty shadowing).afterAll calls).WellFormed :=
    kept_wellFormed.afterAll hcalls ⟨consistent_empty shadowing, wellFormed_empty shadowing⟩
  have hregular : ((empty shadowing).afterAll calls).Regular shadowing :=
    (kept_regular shadowing).afterAll (fun _ _ => trivial) (regular_empty shadowing)
  dsimp only
  generalize (empty shadowing).afterAll calls = s at hready hwell hregular
  obtain ⟨t, hadd, -, hunited⟩ :=
    add_united hwell.1 (batch_many_entities entities) hready hrows options
  obtain ⟨u, heach, hkept, hreplaced⟩ :=
    addEach_replaced hwell.1 hregular.plain hready hrows single
  exact ⟨t, u, hadd, heach, hunited, hreplaced,
    sameTables_iff hwell.2 ⟨hwell.1.add hadd, hregular.plain.add hadd⟩ hkept hunited hreplaced⟩

/-- An entity with a note, and again with a tag only: the batch keeps the note, and the
tables differ. -/
theorem batch_unites_entities_of_one_id :
    let calls : List Call := [.register { uri := "/note" }, .register { uri := "/tag" }]
    let note : Entity := { id := 1, components := Table.ofList [(1, { defId := 1 })] }
    let tag : Entity := { id := 1, components := Table.ofList [(2, { defId := 2 })] }
    let s := (empty true).afterAll calls
    ∃ t u, s.add (.many [.entity note, .entity tag]) {} = .ok t ∧
      s.addEach [note, tag] {} = .ok u ∧ (t.component? ⟨1, 1⟩).isSome = true ∧
      u.component? ⟨1, 1⟩ = none ∧ ¬ SameTables t u := by
  intro calls note tag s
  have hcalls : ∀ call ∈ calls, call.WellFormed := by
    simp [calls, Call.WellFormed, Schema.WellFormed]
  have hready : Ready s.registry [note, tag] := by
    refine ⟨by decide, ?_⟩
    decide +kernel
  have hnote : note.components.values = [{ defId := 1 }] := by rfl
  have htag : tag.components.values = [{ defId := 2 }] := by rfl
  have hrows : WellFormedRows [note, tag] := by
    simp only [WellFormedRows, List.forall_mem_cons, hnote, htag]
    exact ⟨⟨trivial, by simp⟩, ⟨trivial, by simp⟩, by simp⟩
  obtain ⟨t, u, hadd, heach, hunited, hreplaced, hsame⟩ :=
    batch_unites_entities true calls hcalls [note, tag] hready hrows {} {}
  have hkept := (hunited ⟨1, 1⟩).isSome_eq
  have hgone := (hreplaced ⟨1, 1⟩).isSome_eq
  have hall : ¬ LastSuppliesAll [note, tag] := by
    intro hall
    obtain ⟨l, hl, c, hc, hdef⟩ :=
      hall note (List.mem_cons_self ..) { defId := 1 } (hnote ▸ List.mem_singleton_self _)
    obtain rfl : tag = l := Option.some.inj hl
    rw [htag, List.mem_singleton] at hc
    rw [hc] at hdef
    cases hdef
  exact ⟨t, u, hadd, heach, hkept, Option.isNone_iff_eq_none.1 (Option.isSome_eq_false_iff.1 hgone),
    fun h => hall (hsame.1 h)⟩

/-- **The batch is not the additions one after another**: of the two entities of one id it
leaves the row of the first, which the second is to replace. -/
theorem batch_differs_from_additions :
    let s := (empty true).afterAll [.register { uri := "/note" }, .register { uri := "/tag" }]
    let note : Entity := { id := 1, components := Table.ofList [(1, { defId := 1 })] }
    let tag : Entity := { id := 1, components := Table.ofList [(2, { defId := 2 })] }
    let stored (t : Store) := t.componentList.map (·.id)
    (s.add (.many [.entity note, .entity tag]) {}).toOption.map stored
        = some [⟨1, 1⟩, ⟨1, 2⟩] ∧
      (s.addEach [note, tag] {}).toOption.map stored = some [⟨1, 2⟩] := by
  decide +kernel

end Store

end EntityBase
