import EntityBase.Proofs.Machine.Dispatch
import EntityBase.Proofs.Machine.Sequence
import EntityBase.Proofs.Store.Refusal

/-!
# All or nothing — a change to the store that fails is none

The words that change the store take their operands, read them and then make
a call on the store. Up to that call a run keeps the store (`Run.KeepsStore`),
the call itself leaves no trace where it is refused, and nothing after it can
fail. So a run of such a word that fails leaves the store as it was
(`Run.AllOrNothing`), however far it came.
-/

namespace EntityBase.Machine

variable {α β : Type} {m : Run α} {f : α → Run β}

namespace Run

/-- A run that never changes the store. -/
def KeepsStore (m : Run α) : Prop := ∀ env s, (m env s).2.store = s.store

/-- A run that never fails. -/
def AlwaysSucceeds (m : Run α) : Prop := ∀ env s e s', m env s ≠ (.error e, s')

/-- The store that a word finds is that of the state. -/
theorem eq_of_store_ok {env : Env} {s t : State} {store : Store}
    (h : Run.store env s = (.ok store, t)) : s.store = some store ∧ t = s := by
  rw [Run.store, bind_ok (show Run.get env s = (.ok s, s) from rfl)] at h
  cases hstore : s.store with
  | some u =>
    rw [hstore] at h
    cases h
    exact ⟨rfl, rfl⟩
  | none =>
    rw [hstore] at h
    cases h

/-- A run that changes the store only if it succeeds. -/
def AllOrNothing (m : Run α) : Prop :=
  ∀ env s e s', m env s = (.error e, s') → s'.store = s.store

namespace KeepsStore

theorem pure (a : α) : KeepsStore (Pure.pure a : Run α) := fun _ _ => rfl

theorem bind (hm : KeepsStore m) (hf : ∀ a, KeepsStore (f a)) : KeepsStore (m >>= f) := by
  intro env s
  have hstore := hm env s
  rcases bind_cases m f env s with ⟨a, t, hrun, hbind⟩ | ⟨e, t, hrun, hbind⟩
  · rw [hrun] at hstore
    rw [hbind]
    exact (hf a env t).trans hstore
  · rw [hrun] at hstore
    rw [hbind]
    exact hstore

theorem fail (e : Failure) : KeepsStore (Run.fail e : Run α) := fun _ _ => rfl

theorem invalid (c : Complaint) : KeepsStore (Run.invalid c : Run α) := fun _ _ => rfl

theorem ofExcept (r : Except Objection α) : KeepsStore (Run.ofExcept r) := by
  cases r with
  | ok a => exact pure a
  | error o =>
    cases o with
    | complaint c => exact invalid c
    | refusal e => exact fail _

theorem pop : KeepsStore Run.pop := by
  intro env s
  unfold Run.pop
  cases s.frame.items <;> rfl

theorem popEntitySet : KeepsStore Run.popEntitySet := by
  refine bind pop fun v => ?_
  split
  · exact pure _
  · exact invalid _

theorem store : KeepsStore Run.store := by
  refine bind (fun _ _ => rfl) fun s => ?_
  cases s.store with
  | some t => exact pure t
  | none => exact fun _ _ => rfl

theorem notify (notices : List Notice) : KeepsStore (Run.notify notices) := fun _ _ => rfl

end KeepsStore

namespace AlwaysSucceeds

theorem modify (f : State → State) : AlwaysSucceeds (Run.modify f) :=
  fun _ _ _ _ h => nomatch h

theorem bind (hm : AlwaysSucceeds m) (hf : ∀ a, AlwaysSucceeds (f a)) :
    AlwaysSucceeds (m >>= f) := by
  intro env s e s' h
  rcases bind_cases m f env s with ⟨a, t, _, hbind⟩ | ⟨e', t, hrun, _⟩
  · exact hf a env t e s' (hbind.symm.trans h)
  · exact hm env s e' t hrun

end AlwaysSucceeds

namespace AllOrNothing

theorem of_alwaysSucceeds (hm : AlwaysSucceeds m) : AllOrNothing m :=
  fun env s e s' h => absurd h (hm env s e s')

/-- Steps that keep the store may come before the change. -/
theorem bind (hm : KeepsStore m) (hf : ∀ a, AllOrNothing (f a)) : AllOrNothing (m >>= f) := by
  intro env s e s' h
  have hstore := hm env s
  rcases bind_cases m f env s with ⟨a, t, hrun, hbind⟩ | ⟨e', t, hrun, hbind⟩
  · rw [hrun] at hstore
    exact (hf a env t e s' (hbind.symm.trans h)).trans hstore
  · rw [hrun] at hstore
    cases hbind.symm.trans h
    exact hstore

/-- Steps that cannot fail may come after the change. -/
theorem bind_of_alwaysSucceeds (hm : AllOrNothing m) (hf : ∀ a, AlwaysSucceeds (f a)) :
    AllOrNothing (m >>= f) := by
  intro env s e s' h
  rcases bind_cases m f env s with ⟨a, t, _, hbind⟩ | ⟨e', t, hrun, hbind⟩
  · exact absurd (hbind.symm.trans h) (hf a env t e s')
  · cases hbind.symm.trans h
    exact hm env s _ _ hrun

/-- A call that leaves no trace where it is refused may be the change itself. -/
theorem onStore {call : Update Store α} (hcall : call.AllOrNothing) :
    AllOrNothing (Run.onStore call) := by
  intro env s e s' h
  have hkept := KeepsStore.store env s
  rcases bind_cases Run.store _ env s with ⟨store, t, hread, hbind⟩ | ⟨e', t, hread, hbind⟩
  · obtain ⟨hstore, rfl⟩ := eq_of_store_ok hread
    replace h := hbind.symm.trans h
    -- the store that the call leaves becomes that of the state either way
    cases hcalled : call.run store with
    | ok a u =>
      rw [hcalled] at h
      cases h
    | error e' u =>
      rw [hcalled] at h
      cases h
      obtain rfl := hcall _ _ _ hcalled
      exact hstore.symm
  · rw [hread] at hkept
    cases hbind.symm.trans h
    exact hkept

end AllOrNothing

end Run

open Run

theorem allOrNothing_runAdd : AllOrNothing runAdd :=
  .bind .pop fun _ => .bind .popEntitySet fun _ => .bind .store fun _ =>
    .bind (.ofExcept _) fun item => .bind (.notify _) fun _ =>
      (AllOrNothing.onStore (Store.allOrNothing_addInPlace item {})).bind_of_alwaysSucceeds
        fun _ => .modify _

theorem allOrNothing_runRemove : AllOrNothing runRemove :=
  .bind .pop fun _ => .bind .popEntitySet fun _ => .bind .store fun _ =>
    .bind (.ofExcept _) fun _ => .of_alwaysSucceeds <|
      .bind (.modify _) fun _ => .bind (.modify _) fun _ => .bind (.modify _) fun _ => .modify _

/-- The native word that a sign finds on an entity set. -/
theorem find?_builtin_on_entitySet {sign : String} (hsign : sign = "+" ∨ sign = "-") (v : Value)
    (below : List Value) :
    ∃ pattern w, (w = .add ∨ w = .remove) ∧
      (Dictionary.builtin sign).find? (fun o => o.accepts (v :: .entitySet :: below))
        = some ⟨pattern, .native (.store w)⟩ := by
  -- the top item may be of any kind, so the overload is found kind by kind
  rcases hsign with rfl | rfl
  · refine ⟨[.entitySet, .any], .add, .inl rfl, ?_⟩
    cases v <;> rfl
  · refine ⟨[.entitySet, .any], .remove, .inr rfl, ?_⟩
    cases v <;> rfl

/-- **A sign that fails on an entity set** leaves the store as it was. -/
theorem store_of_sign_failed {runList : List Value → Run Flow} {sign : String}
    (hsign : sign = "+" ∨ sign = "-") {env : Env} {s s' : State} {v : Value} {below : List Value}
    {e : Failure} (hunnamed : ∀ f ∈ s.frame :: env.outer, f.words.named sign = [])
    (hitems : s.frame.items = v :: .entitySet :: below)
    (h : runName runList sign env s = (.error e, s')) : s'.store = s.store := by
  obtain ⟨pattern, w, hw, hfind⟩ := find?_builtin_on_entitySet hsign v below
  rw [← hitems, ← overloads_eq_builtin hunnamed] at hfind
  rw [runName_native (by simp) hfind] at h
  have hword : AllOrNothing (runStoreWord w) := by
    rcases hw with rfl | rfl
    · exact allOrNothing_runAdd
    · exact allOrNothing_runRemove
  have hnative : AllOrNothing (andNext (runStoreWord w)) :=
    hword.bind_of_alwaysSucceeds fun _ _ _ _ _ h => nomatch h
  exact hnative _ _ _ _ h

/-- **Changes are made wholly or not at all**, and additions are refused for
good reasons only. An addition fails if and only if its batch is refused;
then the store stays as it was, whether the call retains the changes before
it or not. A sign that fails on an entity set leaves the store as it was. -/
theorem changes_all_or_nothing (shadowing : Bool) (calls : List Store.Call) :
    let store := (Store.empty shadowing).afterAll calls
    (∀ item options,
      ((∃ e t, (Store.addInPlace item options).run store = .error e t) ↔
        store.Refused item.batch) ∧
      ∀ e t, (Store.addInPlace item options).run store = .error e t → t = store) ∧
    ∀ (runList : List Value → Run Flow) (sign : String), sign = "+" ∨ sign = "-" →
      ∀ (env : Env) (s s' : State) (v : Value) (below : List Value) (e : Failure),
        (∀ f ∈ s.frame :: env.outer, f.words.named sign = []) →
        s.frame.items = v :: .entitySet :: below →
        runName runList sign env s = (.error e, s') → s'.store = s.store := by
  have hconsistent : ((Store.empty shadowing).afterAll calls).Consistent :=
    Store.kept_consistent.afterAll (fun _ _ => trivial) (Store.consistent_empty shadowing)
  have hregular : ((Store.empty shadowing).afterAll calls).Regular shadowing :=
    (Store.kept_regular shadowing).afterAll (fun _ _ => trivial) (Store.regular_empty shadowing)
  refine ⟨fun item options => ⟨?_, Store.allOrNothing_addInPlace item options _⟩, ?_⟩
  · exact Store.add_fails_iff hregular.sound hconsistent.capped item options
  · intro runList sign hsign env s s' v below e hunnamed hitems h
    exact store_of_sign_failed hsign hunnamed hitems h

/-- A schema and a component by an unknown definition are refused together by a store
that has a row and changes: neither the schema nor the forgetting of the changes stays,
and the sign that adds them fails and leaves the store. -/
theorem changes_all_or_nothing_unknown_definition :
    let calls : List Store.Call := [.register { uri := "/note" }, .add (.component { defId := 1 }) {}]
    let store := (Store.empty true).afterAll calls
    let tag : Schema := { uri := "/tag" }
    let item : Item := .many [.schema tag, .component { defId := 7 }]
    let env : Env := { limits := {}, now := ⟨2024, 1, 1, 0, 0, 0, 0⟩ }
    let values : Value := .list [.definition (tag.define 0), .component { defId := 7 }]
    let s : State := { frame := { items := [values, .entitySet] }, store }
    store.Refused item.batch ∧ (∃ e, (Store.addInPlace item {}).run store = .error e store) ∧
      store.changes.components.keysMarked .added = [⟨1, 1⟩] ∧
      (runName (runList 1) "+" env s).1.isOk = false ∧
      (runName (runList 1) "+" env s).2.store = some store := by
  intro calls store tag item env values s
  obtain ⟨hadd, hsign⟩ := changes_all_or_nothing true calls
  obtain ⟨hrefused, hkept⟩ := hadd item {}
  have hfails : (runName (runList 1) "+" env s).1.isOk = false := by decide +kernel
  have herror : ∃ e t, (Store.addInPlace item {}).run store = .error e t := by
    have hresult : ((Store.addInPlace item {}).result store).isOk = false := by decide +kernel
    cases h : (Store.addInPlace item {}).result store with
    | error e => exact ⟨e, Update.result_eq_error_iff.1 h⟩
    | ok p =>
      rw [h] at hresult
      cases hresult
  refine ⟨hrefused.1 herror, ?_, by decide +kernel, hfails, ?_⟩
  · obtain ⟨e, t, h⟩ := herror
    rw [show t = store from hkept e t h] at h
    exact ⟨e, h⟩
  · cases h : runName (runList 1) "+" env s with
    | mk r t =>
      cases r with
      | error e =>
        exact hsign (runList 1) "+" (.inl rfl) env s t _ _ e (by decide +kernel) rfl h
      | ok flow =>
        rw [h] at hfails
        cases hfails

end EntityBase.Machine
