import EntityBase.Proofs.Store.Placement
import Mathlib.Data.List.Nodup

/-!
# Groups — how components without an owner share their fresh ids

Components without an owner are gathered in their order: one joins the newest
group unless that has a component by its definition already, and then it starts
the next group. `gather` makes the groups, and `Gathered` says which ones they
are without the walk: they are the components in order, no definition repeats
inside a group, and each group ends only where the next component repeats one.

The placement of a batch gives each group the next id (`placedFrom`), whatever
components with owners stand between (`assignComponents_filter`), and so no two
of the components get one key (`nodup_ids_placedFrom`).
-/

namespace EntityBase

variable {group l rest : List Component} {groups : List (List Component)} {c : Component}
  {first : Nat}

/-- **The groups of components without an owner**: maximal runs of them, in order, in which
no definition repeats. -/
structure Gathered (loose : List Component) (groups : List (List Component)) : Prop where
  in_order : groups.flatten = loose
  nonempty : ∀ group ∈ groups, group ≠ []
  distinct : ∀ group ∈ groups, (group.map (·.defId)).Nodup
  maximal : groups.IsChain fun group next => ∃ c ∈ next.head?, c.defId ∈ group.map (·.defId)

/-- The groups of some components after the newest group has some already. -/
def gatherFrom (group : List Component) : List Component → List (List Component)
  | [] => [group]
  | c :: rest =>
    if c.defId ∈ group.map (·.defId) then group :: gatherFrom [c] rest
    else gatherFrom (group ++ [c]) rest

/-- The groups of some components. -/
def gather : List Component → List (List Component)
  | [] => []
  | c :: rest => gatherFrom [c] rest

/-- What the newest group has stays in front of it, and no group repeats a definition. -/
theorem gathered_gatherFrom (hne : group ≠ []) (hdistinct : (group.map (·.defId)).Nodup)
    (rest : List Component) : ∃ newest later, gatherFrom group rest = newest :: later ∧
      group <+: newest ∧ Gathered (group ++ rest) (newest :: later) := by
  induction rest generalizing group with
  | nil =>
    refine ⟨group, [], rfl, List.prefix_refl group, ?_⟩
    exact ⟨by simp, by simpa using hne, by simpa using hdistinct, List.IsChain.singleton _⟩
  | cons c rest ih =>
    rw [gatherFrom]
    by_cases hrepeats : c.defId ∈ group.map (·.defId)
    · rw [if_pos hrepeats]
      have hone : ([c].map (·.defId)).Nodup := List.nodup_singleton _
      obtain ⟨newest, later, hgather, hprefix, hall⟩ := ih (List.cons_ne_nil c []) hone
      rw [hgather]
      refine ⟨group, newest :: later, rfl, List.prefix_refl group, ?_, ?_, ?_, ?_⟩
      · rw [List.flatten_cons, hall.in_order, List.singleton_append]
      · exact List.forall_mem_cons.2 ⟨hne, hall.nonempty⟩
      · exact List.forall_mem_cons.2 ⟨hdistinct, hall.distinct⟩
      -- the next group starts with the component that repeats
      · obtain ⟨behind, rfl⟩ := hprefix
        exact List.isChain_cons_cons.2 ⟨⟨c, rfl, hrepeats⟩, hall.maximal⟩
    · rw [if_neg hrepeats]
      have hlonger : ((group ++ [c]).map (·.defId)).Nodup := by
        rw [List.map_append, List.nodup_append_comm]
        exact List.nodup_cons.2 ⟨hrepeats, hdistinct⟩
      obtain ⟨newest, later, hgather, hprefix, hall⟩ := ih (by simp) hlonger
      rw [List.append_assoc, List.singleton_append] at hall
      exact ⟨newest, later, hgather, (List.prefix_append _ _).trans hprefix, hall⟩

theorem gathered_gather (l : List Component) : Gathered l (gather l) := by
  cases l with
  | nil => exact ⟨rfl, by simp [gather], by simp [gather], List.IsChain.nil⟩
  | cons c rest =>
    have hone : ([c].map (·.defId)).Nodup := List.nodup_singleton _
    obtain ⟨newest, later, hgather, -, hall⟩ := gathered_gatherFrom (List.cons_ne_nil c []) hone rest
    rw [gather, hgather]
    exact hall

/-! ## Groups under their ids -/

/-- The components of groups under the ids of the groups, which start at `first`. -/
def placedFrom (first : Nat) : List (List Component) → List Component
  | [] => []
  | group :: later =>
    group.map (fun c => { c with entity := first }) ++ placedFrom (first + 1) later

/-- A group has one of the ids that the groups take. -/
theorem entity_of_mem_placedFrom (h : c ∈ placedFrom first groups) :
    first ≤ c.entity ∧ c.entity < first + groups.length := by
  induction groups generalizing first with
  | nil => cases h
  | cons group later ih =>
    rw [List.length_cons]
    rcases List.mem_append.1 h with h | h
    · obtain ⟨c', -, rfl⟩ := List.mem_map.1 h
      exact ⟨Nat.le_refl first, Nat.lt_add_of_pos_right (Nat.succ_pos _)⟩
    · obtain ⟨hle, hlt⟩ := ih h
      have hnumber : first + 1 + later.length = first + (later.length + 1) := by omega
      exact ⟨Nat.le_of_succ_le hle, Nat.lt_of_lt_of_eq hlt hnumber⟩

/-- **No two components of the groups get one key.** -/
theorem nodup_ids_placedFrom (h : ∀ group ∈ groups, (group.map (·.defId)).Nodup) :
    ((placedFrom first groups).map (·.id)).Nodup := by
  induction groups generalizing first with
  | nil => exact List.nodup_nil
  | cons group later ih =>
    obtain ⟨hgroup, hlater⟩ := List.forall_mem_cons.1 h
    rw [placedFrom, List.map_append, List.map_map]
    refine List.Nodup.append ?_ (ih hlater) ?_
    · have hkeys : group.map ((·.id) ∘ fun c => { c with entity := first })
          = (group.map (·.defId)).map (ComponentId.mk first) := by
        rw [List.map_map]
        rfl
      rw [hkeys]
      exact hgroup.map fun d d' heq => (ComponentId.mk.inj heq).2
    -- the later groups have later ids
    · intro id hid hid'
      obtain ⟨c, -, rfl⟩ := List.mem_map.1 hid
      obtain ⟨c', hc', heq⟩ := List.mem_map.1 hid'
      have hle := (entity_of_mem_placedFrom hc').1
      have hentity : c'.entity = first := congrArg ComponentId.entity heq
      rw [hentity] at hle
      exact absurd hle (Nat.not_succ_le_self first)

/-! ## What the placement gives the groups -/

/-- Components without an owner get the ids of their groups, after the ids of the groups
that are there already. -/
theorem assignComponents_gatherFrom (first : Nat) (seen : List DefId) (older : List (List DefId))
    (hseen : ∀ d, d ∈ seen ↔ d ∈ group.map (·.defId)) (hloose : ∀ c ∈ rest, c.hasEntity = false) :
    group.map (fun c => { c with entity := first + older.length }) ++
        assignComponents first (seen :: older) rest
      = placedFrom (first + older.length) (gatherFrom group rest) ∧
    ((rest.map (·.defId)).foldl groupWith (seen :: older)).length
      = older.length + (gatherFrom group rest).length := by
  induction rest generalizing group seen older with
  | nil => exact ⟨List.append_nil _ |>.trans (List.append_nil _).symm, rfl⟩
  | cons c rest ih =>
    obtain ⟨hc, hrest⟩ := List.forall_mem_cons.1 hloose
    have hown : ¬ c.hasEntity = true := by simp [hc]
    rw [assignComponents, if_neg hown, gatherFrom, List.map_cons, List.foldl_cons]
    by_cases hrepeats : c.defId ∈ group.map (·.defId)
    · have hgroups : groupWith (seen :: older) c.defId = [c.defId] :: seen :: older :=
        if_pos ((hseen c.defId).2 hrepeats)
      have hone : ∀ d, d ∈ [c.defId] ↔ d ∈ [c].map (·.defId) := fun _ => Iff.rfl
      obtain ⟨hplaced, hlength⟩ := ih [c.defId] (seen :: older) hone hrest
      rw [if_pos hrepeats, hgroups, hlength]
      refine ⟨?_, by simp only [List.length_cons]; omega⟩
      rw [placedFrom]
      exact congrArg _ hplaced
    · have hgroups : groupWith (seen :: older) c.defId = (c.defId :: seen) :: older :=
        if_neg fun h => hrepeats ((hseen c.defId).1 h)
      have hlonger : ∀ d, d ∈ c.defId :: seen ↔ d ∈ (group ++ [c]).map (·.defId) := by
        intro d
        rw [List.map_append, List.mem_append, List.mem_cons, hseen, or_comm]
        simp
      obtain ⟨hplaced, hlength⟩ := ih (c.defId :: seen) older hlonger hrest
      rw [if_neg hrepeats, hgroups, hlength, ← hplaced, List.map_append, List.append_assoc]
      exact ⟨rfl, rfl⟩

/-- **Components without an owner get the ids of their groups.** -/
theorem assignComponents_of_loose (h : ∀ c ∈ l, c.hasEntity = false) :
    assignComponents first [] l = placedFrom first (gather l) := by
  cases l with
  | nil => rfl
  | cons c rest =>
    obtain ⟨hc, hrest⟩ := List.forall_mem_cons.1 h
    have hone : ∀ d, d ∈ [c.defId] ↔ d ∈ [c].map (·.defId) := fun _ => Iff.rfl
    have hown : ¬ c.hasEntity = true := by simp [hc]
    rw [assignComponents, if_neg hown]
    exact (assignComponents_gatherFrom first [c.defId] [] hone hrest).1

/-- There are as many groups as the batch takes ids for. -/
theorem length_looseGroups (components : List Component) :
    (looseGroups [] components).length
      = (gather (components.filter fun c => !c.hasEntity)).length := by
  have hloose : ∀ c ∈ components.filter fun c => !c.hasEntity, c.hasEntity = false := by simp
  unfold looseGroups
  revert hloose
  cases components.filter fun c => !c.hasEntity with
  | nil => exact fun _ => rfl
  | cons c rest =>
    intro hloose
    have hone : ∀ d, d ∈ [c.defId] ↔ d ∈ [c].map (·.defId) := fun _ => Iff.rfl
    have hrest := (List.forall_mem_cons.1 hloose).2
    have hlength := (assignComponents_gatherFrom 0 [c.defId] [] hone hrest).2
    rw [List.length_nil, Nat.zero_add] at hlength
    exact hlength

/-- **Components with owners between them make no difference** to the others, where all
owners lie below the fresh ids. -/
theorem assignComponents_filter (seen : List (List DefId)) {components : List Component}
    (h : ∀ c ∈ components, c.entity < first) :
    (assignComponents first seen components).filter (fun c => first ≤ c.entity)
      = assignComponents first seen (components.filter fun c => !c.hasEntity) := by
  induction components generalizing seen with
  | nil => rfl
  | cons c rest ih =>
    obtain ⟨hc, hrest⟩ := List.forall_mem_cons.1 h
    rw [assignComponents]
    by_cases hown : c.hasEntity = true
    · have hbelow : ¬ first ≤ c.entity := Nat.not_le.2 hc
      rw [if_pos hown, List.filter_cons_of_neg (by simpa using hbelow),
        List.filter_cons_of_neg (by simp [hown]), ih seen hrest]
    · rw [if_neg hown, List.filter_cons_of_pos (by simp), List.filter_cons_of_pos (by simp [hown]),
        ih _ hrest, assignComponents, if_neg hown]

/-- Under the ids that they get, components are as they were or have a fresh id. -/
theorem mem_or_le_of_mem_assignComponents {seen : List (List DefId)} {components : List Component}
    (h : c ∈ assignComponents first seen components) : c ∈ components ∨ first ≤ c.entity := by
  induction components generalizing seen with
  | nil => cases h
  | cons c' rest ih =>
    rw [assignComponents] at h
    split at h
    · rcases List.mem_cons.1 h with rfl | h
      · exact Or.inl (List.mem_cons_self ..)
      · exact (ih h).imp (List.mem_cons_of_mem _) id
    · rcases List.mem_cons.1 h with rfl | h
      · exact Or.inr (Nat.le_add_right ..)
      · exact (ih h).imp (List.mem_cons_of_mem _) id

namespace Batch

/-- The components of a batch without an owner. -/
def loose (b : Batch) : List Component := b.components.filter fun c => !c.hasEntity

/-- A batch needs a fresh id for each entity without one and for each group. -/
theorem freshCount_eq (b : Batch) :
    b.freshCount = unassignedCount b.entities + (gather b.loose).length := by
  rw [freshCount, length_looseGroups]
  rfl

theorem hasEntity_of_mem_loose {b : Batch} : ∀ c ∈ b.loose, c.hasEntity = false := by
  simp [loose]

/-- **The components of a batch under their ids** are those with an owner, as they are, and
the groups of the others. -/
theorem mem_assigned_iff {b : Batch} (h : ∀ c ∈ b.components, c.entity < first) :
    c ∈ assignComponents first [] b.components ∧ first ≤ c.entity ↔
      c ∈ placedFrom first (gather b.loose) := by
  have hfilter := assignComponents_filter [] h
  change _ = assignComponents first [] b.loose at hfilter
  rw [← assignComponents_of_loose b.hasEntity_of_mem_loose, ← hfilter, List.mem_filter]
  simp

end Batch

end EntityBase
