import EntityBase.Proofs.Store.Marks
import EntityBase.Proofs.Store.WellFormed

/-!
# Net changes — a change set is a difference of tables

The change sets of a store are emptied by a call that does not retain them,
or by hand, and from then on every retaining call adds to them. However
often a key comes and goes meanwhile, the sets say what came of it in the
end: `changes_are_net` reads them against the tables at the moment at which
they were last emptied.
-/

namespace EntityBase.Store

open ChangeSet

variable {s s₀ t : Store}

/-! ## Contents that differ -/

/-- Rows of the same content, or none. -/
def SameRow : Option Component → Option Component → Prop
  | some a, some b => a.sameContent b = true
  | none, none => True
  | _, _ => False

instance : (a b : Option Component) → Decidable (SameRow a b)
  | some a, some b => inferInstanceAs (Decidable (a.sameContent b = true))
  | none, none => isTrue trivial
  | some _, none | none, some _ => isFalse id

/-- Whether a row differs between two stores. -/
def RowDiffers (s t : Store) (id : ComponentId) : Prop :=
  ¬ SameRow (s.component? id) (t.component? id)

/-- Whether some row of an entity differs between two stores. -/
def EntityDiffers (s t : Store) (e : EntityId) : Prop := ∃ d, RowDiffers s t ⟨e, d⟩

/-- A row that is left alone does not differ. -/
theorem WellFormed.same_of_eq (hs : s.WellFormed) {id : ComponentId}
    (h : t.components.get? id = s.components.get? id) : ¬ RowDiffers s t id := by
  refine not_not_intro ?_
  unfold component?
  rw [h]
  cases hrow : s.components.get? id with
  | none => trivial
  | some c => exact Component.sameContent_self (hs.row id c hrow)

/-! ## Marks with a ground -/

/-- Every key that is marked as updated differs. -/
structure Grounded (s₀ s : Store) : Prop where
  components : ∀ id, s.changes.components.get? id = some .updated → RowDiffers s₀ s id
  entities : ∀ e, s.changes.entities.get? e = some .updated → EntityDiffers s₀ s e

/-- Where no change is noted there is nothing to ground. -/
theorem Grounded.of_none (h : s.changes = .none) : Grounded s₀ s := by
  refine ⟨fun id hid => ?_, fun e he => ?_⟩
  · rw [h] at hid
    cases hid
  · rw [h] at he
    cases he

theorem Grounded.of_eq (h : Grounded s₀ s) (hcomponents : t.components = s.components)
    (hchanges : t.changes = s.changes) : Grounded s₀ t := by
  refine ⟨fun id hid => ?_, fun e he => ?_⟩
  · rw [hchanges] at hid
    unfold RowDiffers component?
    rw [hcomponents]
    exact h.components id hid
  · rw [hchanges] at he
    unfold EntityDiffers RowDiffers component?
    rw [hcomponents]
    exact h.entities e he

/-- A write to another row does not settle a difference. -/
theorem differs_writeRow {id j : ComponentId} {c : Component} (hj : j ≠ id)
    (h : RowDiffers s₀ s j) : RowDiffers s₀ (s.writeRow id c) j := by
  unfold RowDiffers component?
  rw [components_writeRow, if_neg hj]
  exact h

/-- **A write to a row that was left alone so far** marks what differs then. -/
theorem Grounded.writeRow (h : Grounded s₀ s) (hs₀ : s₀.WellFormed) {id : ComponentId}
    (hrow : s.components.get? id = s₀.components.get? id) (c : Component) :
    Grounded s₀ (s.writeRow id c) := by
  -- the differences so far are at other rows
  have hother : ∀ j, RowDiffers s₀ s j → RowDiffers s₀ (s.writeRow id c) j := by
    intro j hdiffers
    refine differs_writeRow (fun hj => ?_) hdiffers
    rw [hj] at hdiffers
    exact hs₀.same_of_eq hrow hdiffers
  have hlift : ∀ e, EntityDiffers s₀ s e → EntityDiffers s₀ (s.writeRow id c) e :=
    fun e ⟨d, hd⟩ => ⟨d, hother _ hd⟩
  -- what a write marks, its own key and its owner, differs then
  have hmarks : s.writeRow id c = s ∨ RowDiffers s₀ (s.writeRow id c) id := by
    rcases writeRow_cases s id c with ⟨heq, -⟩ | ⟨old, hold, hunlike, hnew, -⟩ | ⟨hold, hnew, -⟩
    · exact Or.inl heq
    · refine Or.inr ?_
      unfold RowDiffers component?
      rw [hnew, ← hrow, hold]
      simpa [SameRow] using hunlike
    · refine Or.inr ?_
      unfold RowDiffers component?
      rw [hnew, ← hrow, hold]
      exact not_false
  rcases hmarks with heq | hdiffers
  · rw [heq]
    exact h
  · refine ⟨fun j hj => ?_, fun e he => ?_⟩
    · by_cases hne : j = id
      · rw [hne]
        exact hdiffers
      · rw [componentMark_writeRow_of_ne hne] at hj
        exact hother j (h.components j hj)
    · by_cases hne : e = id.entity
      · rw [hne]
        exact ⟨id.defId, hdiffers⟩
      · rw [entityMark_writeRow_of_ne hne] at he
        exact hlift e (h.entities e he)

/-- Rows with increasing keys, each left alone so far, written one after another. -/
theorem Grounded.writeRows (hs₀ : s₀.WellFormed) {rows : List (ComponentId × Component)}
    (hsorted : Entries.Sorted rows) (h : Grounded s₀ s)
    (hrows : ∀ row ∈ rows, s.components.get? row.1 = s₀.components.get? row.1) :
    Grounded s₀ (rows.foldl (fun s row => s.writeRow row.1 row.2) s) := by
  induction rows generalizing s with
  | nil => exact h
  | cons row rest ih =>
    refine ih (List.Pairwise.of_cons hsorted)
      (h.writeRow hs₀ (hrows row (List.mem_cons_self ..)) row.2) fun later hlater => ?_
    -- a later key is another one, so its row is left alone by this write
    have hlt : compare row.1 later.1 = .lt := List.rel_of_pairwise_cons hsorted hlater
    have hne : later.1 ≠ row.1 := by
      intro heq
      simp [heq, Std.ReflCmp.compare_self] at hlt
    rw [components_writeRow, if_neg hne]
    exact hrows later (List.mem_cons_of_mem _ hlater)

/-- **Dropping rows that were left alone so far** leaves marked what differs. -/
theorem Grounded.dropRows (h : Grounded s₀ s) {rows : KeySet ComponentId}
    (hrows : ∀ id, rows.contains id = true → s.components.get? id = s₀.components.get? id) :
    Grounded s₀ (s.dropRows rows) := by
  refine ⟨fun j hj => ?_, fun e he => ?_⟩
  · rw [componentMark_dropRows] at hj
    split at hj
    · -- a removal marks nothing as updated
      generalize s.changes.components.get? j = m at hj
      rcases m with _ | _ | _ | _ <;> cases hj
    · rename_i hkept
      have hrow : (s.dropRows rows).components.get? j = s.components.get? j := by
        rw [components_dropRows]
        split
        · rename_i hdropped
          exact (Option.not_isSome_iff_eq_none.1 fun hj => hkept ⟨hdropped, hj⟩).symm
        · rfl
      unfold RowDiffers component?
      rw [hrow]
      exact h.components j hj
  · by_cases howner : e ∈ s.ownersOf rows.keys
    · obtain ⟨id, hid, hstored, rfl⟩ := mem_ownersOf.1 howner
      have hdropped := Table.mem_keys_iff.1 hid
      obtain ⟨c, hc⟩ := Option.isSome_iff_exists.1 hstored
      have hbefore : s₀.components.get? id = some c := (hrows id hdropped).symm.trans hc
      -- the owner lost a row that it had before
      refine ⟨id.defId, fun hsame => ?_⟩
      change SameRow (s₀.components.get? id) ((s.dropRows rows).components.get? id) at hsame
      rw [hbefore, components_dropRows, if_pos hdropped] at hsame
      exact hsame
    · obtain ⟨hsame, hmark⟩ := dropRows_of_not_owner howner
      rw [hmark] at he
      obtain ⟨d, hd⟩ := h.entities e he
      have hrow : (s.dropRows rows).components.get? ⟨e, d⟩ = s.components.get? ⟨e, d⟩ :=
        congrFun hsame d
      refine ⟨d, ?_⟩
      unfold RowDiffers component?
      rw [hrow]
      exact hd

/-! ## Editing calls -/

/-- How an editing call treats the changes so far. -/
def Call.options? : Call → Option CallOptions
  | .add _ options | .removeComponents _ options | .removeEntities _ options => some options
  | _ => none

/-- An addition or a removal that keeps the changes so far. -/
def Call.Retains (call : Call) : Prop :=
  ∃ options, call.options? = some options ∧ options.retain = true

/-- An addition or a removal that forgets the changes so far. -/
def Call.StartsOver (call : Call) : Prop :=
  ∃ options, call.options? = some options ∧ options.retain = false

theorem opened_of_retains {options : CallOptions} (h : options.retain = true) :
    s.opened options = s := by
  rw [opened, if_pos h]

theorem opened_of_startsOver {options : CallOptions} (h : options.retain = false) :
    s.opened options = s.clearChanges := by
  rw [opened, if_neg (by simp [h])]

/-- **An editing call keeps the tracking** of the store as it finds it. -/
theorem Tracked.edit {call : Call} {options : CallOptions} (hcall : call.options? = some options)
    (hs : s.Consistent) (h : Tracked s₀ (s.opened options)) (hok : s.attempt call = .ok t) :
    Tracked s₀ t := by
  cases call with
  | add item options' =>
    obtain rfl := Option.some.inj hcall
    rw [attempt_add] at hok
    obtain ⟨r, p, hreg, hplan, rfl⟩ := add_cases hok
    have hstaged := hs.staged options' hreg hplan
    have htracked : Tracked s₀
        { s.opened options' with registry := r, nextEntity := p.nextEntity } :=
      h.of_eq rfl rfl
    exact (htracked.writeRows hstaged (hs.admissible_upserts hplan)).dropRows
      (hstaged.writeRows (hs.admissible_upserts hplan)) _
  | removeComponents ids options' =>
    obtain rfl := Option.some.inj hcall
    obtain rfl := Except.ok.inj hok
    exact h.dropRows (hs.opened options') _
  | removeEntities ids options' =>
    obtain rfl := Option.some.inj hcall
    obtain rfl := Except.ok.inj hok
    exact h.dropRows (hs.opened options') _
  | register | clearChanges | clone => cases hcall

/-- **An editing call that starts over marks what differs.** It touches each
row at most once: no row is both written and taken away. -/
theorem Grounded.edit {call : Call} {options : CallOptions} (hcall : call.options? = some options)
    (hs : s.WellFormed) (h : Grounded s (s.opened options)) (hok : s.attempt call = .ok t) :
    Grounded s t := by
  have hopened : (s.opened options).components = s.components := by
    unfold opened
    split <;> rfl
  cases call with
  | add item options' =>
    obtain rfl := Option.some.inj hcall
    rw [attempt_add] at hok
    obtain ⟨r, p, hreg, hplan, rfl⟩ := add_cases hok
    have hgrounded : Grounded s
        { s.opened options' with registry := r, nextEntity := p.nextEntity } :=
      h.of_eq rfl rfl
    refine (hgrounded.writeRows hs p.upserts.sorted fun row hrow => ?_).dropRows fun id hid => ?_
    · exact congrArg (·.get? row.1) hopened
    · have hwritten := components_writeRows p.upserts
        { s.opened options' with registry := r, nextEntity := p.nextEntity } id
      -- a row that the plan writes is not one that it takes away
      cases hup : p.upserts.get? id with
      | none =>
        rw [hup] at hwritten
        exact hwritten.trans (congrArg (·.get? id) hopened)
      | some c =>
        rw [removals_plan hplan hup] at hid
        cases hid
  | removeComponents ids options' =>
    obtain rfl := Option.some.inj hcall
    obtain rfl := Except.ok.inj hok
    exact h.dropRows fun id _ => congrArg (·.get? id) hopened
  | removeEntities ids options' =>
    obtain rfl := Option.some.inj hcall
    obtain rfl := Except.ok.inj hok
    exact h.dropRows fun id _ => congrArg (·.get? id) hopened
  | register | clearChanges | clone => cases hcall

/-! ## Net changes -/

/-- What a change set says of its keys, given which were there before, which
are there now, and which differ. -/
structure Difference {κ : Type} [Ord κ] (before after differs : κ → Prop) (changes : ChangeSet κ) :
    Prop where
  added : ∀ k, k ∈ changes.keysMarked .added ↔ after k ∧ ¬ before k
  removed : ∀ k, k ∈ changes.keysMarked .removed ↔ before k ∧ ¬ after k
  updated : ∀ k ∈ changes.keysMarked .updated, before k ∧ after k
  differing : ∀ k, before k → after k → differs k → k ∈ changes.keysMarked .updated
  disjoint : ∀ k m n, k ∈ changes.keysMarked m → k ∈ changes.keysMarked n → m = n

/-- The change sets of `t` are the net change from the tables of `s` to those
of `t`. -/
structure NetChange (s t : Store) : Prop where
  components : Difference (fun id => (s.component? id).isSome) (fun id => (t.component? id).isSome)
    (RowDiffers s t) t.changes.components
  entities : Difference (fun e => (s.shape? e).isSome) (fun e => (t.shape? e).isSome)
    (EntityDiffers s t) t.changes.entities

/-- The updated keys of `t` are exactly those that are in both stores and
differ. -/
structure ExactUpdates (s t : Store) : Prop where
  components : ∀ id, id ∈ t.changes.components.keysMarked .updated ↔
    (s.component? id).isSome ∧ (t.component? id).isSome ∧ RowDiffers s t id
  entities : ∀ e, e ∈ t.changes.entities.keysMarked .updated ↔
    (s.shape? e).isSome ∧ (t.shape? e).isSome ∧ EntityDiffers s t e

/-- Marks that tell the difference of values make a difference of sets. -/
theorem difference_of_net {κ α : Type} [Ord κ] [Std.TransOrd κ] [Std.LawfulEqOrd κ] {absent : α}
    {p q : κ → α} {before after differs : κ → Prop} {changes : ChangeSet κ}
    (hnet : ∀ k, Net absent (p k) (q k) (changes.get? k))
    (hbefore : ∀ k, before k ↔ p k ≠ absent) (hafter : ∀ k, after k ↔ q k ≠ absent)
    (hdiffers : ∀ k, differs k → p k ≠ q k) : Difference before after differs changes := by
  refine ⟨fun k => ?_, fun k => ?_, fun k hk => ?_, fun k hb ha hd => ?_, fun k m n hm hn => ?_⟩
  · rw [mem_keysMarked, (hnet k).added, hbefore, hafter, Classical.not_not]
    exact And.comm
  · rw [mem_keysMarked, (hnet k).removed, hbefore, hafter, Classical.not_not]
  · rw [hbefore, hafter]
    exact (hnet k).updated (mem_keysMarked.1 hk)
  · exact mem_keysMarked.2 ((hnet k).unlike ((hbefore k).1 hb) ((hafter k).1 ha) (hdiffers k hd))
  · rw [mem_keysMarked] at hm hn
    exact Option.some.inj (hm.symm.trans hn)

/-- **Tracked stores differ by a net change.** -/
theorem Tracked.netChange (h : Tracked s t) (hs : s.Consistent) (hwell : s.WellFormed)
    (ht : t.Consistent) : NetChange s t := by
  refine ⟨difference_of_net h.components (fun id => ?_) (fun id => ?_) fun id hd heq => ?_,
    difference_of_net h.entities (fun e => ?_) (fun e => ?_) fun e hd heq => ?_⟩
  · exact Option.isSome_iff_ne_none
  · exact Option.isSome_iff_ne_none
  · exact hwell.same_of_eq heq.symm hd
  · rw [Ne, hs.rowsAt_eq_noRows_iff]
    exact Option.isSome_iff_ne_none
  · rw [Ne, ht.rowsAt_eq_noRows_iff]
    exact Option.isSome_iff_ne_none
  · obtain ⟨d, hd⟩ := hd
    exact hwell.same_of_eq (congrFun heq d).symm hd

/-- Retaining calls keep a store consistent and tracked. -/
theorem kept_tracked (s₀ : Store) : Kept Call.Retains fun s => s.Consistent ∧ Tracked s₀ s := by
  intro s call t hretains hs h
  obtain ⟨options, hoptions, hretain⟩ := hretains
  obtain ⟨hconsistent, htracked⟩ := hs
  refine ⟨kept_consistent s call t trivial hconsistent h, ?_⟩
  refine Tracked.edit hoptions hconsistent ?_ h
  rw [opened_of_retains hretain]
  exact htracked

/-- **Change sets are the net effect on the tables.** Take the store after any
calls with well-formed data. Once its changes are cleared, or once an editing
call has started them over, the change sets after any further retaining calls,
refused ones among them, are the net change of the tables since then; and right
after the call that started over, the updated keys are exactly those that
differ. -/
theorem changes_are_net (shadowing : Bool) (earlier later : List Call)
    (hdata : ∀ call ∈ earlier, call.WellFormed) (hretain : ∀ call ∈ later, call.Retains) :
    let s := (empty shadowing).afterAll earlier
    NetChange s (s.clearChanges.afterAll later) ∧
      ∀ call t, call.StartsOver → s.attempt call = .ok t →
        NetChange s (t.afterAll later) ∧ ExactUpdates s t := by
  obtain ⟨hs, hwell⟩ := kept_wellFormed.afterAll hdata
    ⟨consistent_empty shadowing, wellFormed_empty shadowing⟩
  dsimp only
  generalize (empty shadowing).afterAll earlier = s at hs hwell
  -- from any tracked store, retaining calls lead to a net change
  have hrun : ∀ u : Store, u.Consistent → Tracked s u → NetChange s (u.afterAll later) := by
    intro u hu htracked
    obtain ⟨hconsistent, hlater⟩ := (kept_tracked s).afterAll hretain ⟨hu, htracked⟩
    exact hlater.netChange hs hwell hconsistent
  refine ⟨?_, fun call t hcall hok => ?_⟩
  · exact hrun _ (hs.of_tables rfl rfl rfl rfl) (Tracked.refl rfl rfl)
  · obtain ⟨options, hoptions, hover⟩ := hcall
    have ht := kept_consistent s call t trivial hs hok
    -- the call starts from the tables of `s` with no change noted
    have htracked : Tracked s t := by
      refine Tracked.edit hoptions hs ?_ hok
      rw [opened_of_startsOver hover]
      exact Tracked.refl rfl rfl
    have hgrounded : Grounded s t := by
      refine Grounded.edit hoptions hwell ?_ hok
      rw [opened_of_startsOver hover]
      exact Grounded.of_none rfl
    have hnet := htracked.netChange hs hwell ht
    refine ⟨hrun t ht htracked, fun id => ⟨fun hid => ?_, fun hid => ?_⟩,
      fun e => ⟨fun he => ?_, fun he => ?_⟩⟩
    · obtain ⟨hbefore, hafter⟩ := hnet.components.updated id hid
      exact ⟨hbefore, hafter, hgrounded.components id (mem_keysMarked.1 hid)⟩
    · exact hnet.components.differing id hid.1 hid.2.1 hid.2.2
    · obtain ⟨hbefore, hafter⟩ := hnet.entities.updated e he
      exact ⟨hbefore, hafter, hgrounded.entities e (mem_keysMarked.1 he)⟩
    · exact hnet.entities.differing e he.1 he.2.1 he.2.2

/-- A note that is removed and then put back with another text. -/
theorem changes_are_net_removed_and_put_back :
    let earlier : List Call := [.register { uri := "/note" }, .add (.component { defId := 1 }) {}]
    let later : List Call := [.add (.component
      { entity := 1, defId := 1, attributes := Table.ofList [("text", .string "b")] })
      { retain := true }]
    let s := (empty true).afterAll earlier
    let t := s.removeEntities [1] {}
    NetChange s (t.afterAll later) ∧ ExactUpdates s t ∧
      t.changes.components.keysMarked .removed = [⟨1, 1⟩] ∧
      (t.afterAll later).changes.components.keysMarked .updated = [⟨1, 1⟩] ∧
      (t.afterAll later).changes.entities.keysMarked .updated = [1] := by
  intro earlier later s t
  have hdata : ∀ call ∈ earlier, call.WellFormed := by
    intro call hcall
    rcases List.mem_cons.1 hcall with rfl | hcall
    · exact fun p hp => absurd hp List.not_mem_nil
    · obtain rfl := List.mem_singleton.1 hcall
      refine ⟨fun c hc => ?_, fun e he => absurd he List.not_mem_nil,
        fun s hs => absurd hs List.not_mem_nil⟩
      obtain rfl := List.mem_singleton.1 hc
      exact ⟨by decide, trivial⟩
  have hretain : ∀ call ∈ later, call.Retains := by
    intro call hcall
    obtain rfl := List.mem_singleton.1 hcall
    exact ⟨_, rfl, rfl⟩
  obtain ⟨hnet, hexact⟩ := (changes_are_net true earlier later hdata hretain).2
    (.removeEntities [1] {}) t ⟨_, rfl, rfl⟩ rfl
  exact ⟨hnet, hexact, by decide +kernel, by decide +kernel, by decide +kernel⟩

end EntityBase.Store
