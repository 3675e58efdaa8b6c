import EntityBase.Proofs.Registry
import EntityBase.Store.Add

/-!
# Additions in place — nothing is written before the plan is made

An addition writes to the store in several steps, and could be refused
between any two of them. `addInPlace_eq` gives all of its steps at once: the
schemas are registered and the plan is made while the store is still as the
call found it, and no step after the first write is ever refused. So a
refused addition leaves the store as it was (`allOrNothing_addInPlace`).
-/

namespace EntityBase

open Update (AllOrNothing)

namespace Store

variable {α : Type} {shadowing : Bool} {r : Registry}

/-! ## Registrations -/

@[simp] theorem registerAll_nil : registerAll shadowing r [] = .ok r := rfl

theorem registerAll_cons (schema : Schema) (rest : List Schema) :
    registerAll shadowing r (schema :: rest) =
      match r.register schema shadowing with
      | .ok (r', _) => registerAll shadowing r' rest
      | .error e => .error e := by
  rw [registerAll, Registry.registerAllInPlace, Update.outcome_bind, Registry.register]
  cases (Registry.registerInPlace schema shadowing).result r <;> rfl

/-- A call on the registry leaves the rest of the store alone, and so a refused
one all of it, if it leaves the registry as it was. -/
theorem allOrNothing_onRegistry {m : Update Registry α} (hm : m.AllOrNothing) :
    AllOrNothing (onRegistry m) := by
  intro s e t h
  rw [EStateM.run, onRegistry] at h
  cases hrun : m.run s.registry with
  | ok a r =>
    rw [hrun] at h
    cases h
  | error e' r =>
    rw [hrun] at h
    cases h
    rw [hm _ _ _ hrun]

theorem allOrNothing_registerInPlace (schema : Schema) :
    (registerInPlace schema).AllOrNothing := by
  intro s e t h
  have hregistry := allOrNothing_onRegistry
    (Registry.allOrNothing_registerInPlace schema s.shadowing)
  exact hregistry s e t h

theorem register_eq (s : Store) (schema : Schema) :
    s.register schema = (s.registry.register schema s.shadowing).map fun (registry, outcome) =>
      ({ s with registry }, outcome) := by
  change Update.result (onRegistry (Registry.registerInPlace schema s.shadowing)) s = _
  unfold Update.result EStateM.run onRegistry Registry.register Update.result
  cases (Registry.registerInPlace schema s.shadowing).run s.registry <;> rfl

/-! ## Additions -/

/-- **An addition in place**, as a whole: up to the plan the store is as the call found
it, and from then on nothing is refused. -/
theorem addInPlace_eq (s : Store) (item : Item) (options : CallOptions) :
    (addInPlace item options).run s =
      match registerAll s.shadowing s.registry item.batch.schemas with
      | .error e => .error e s
      | .ok registry =>
        match s.plan registry item.batch with
        | .error e => .error e s
        | .ok p =>
          let t := ({ s.opened options with registry } : Store).apply p
          .ok t.changes t := by
  unfold addInPlace Update.onCopy registerAll
  simp only [EStateM.run_bind, EStateM.run_get, EStateM.run_pure, Update.run_ofExcept]
  cases (Registry.registerAllInPlace s.shadowing item.batch.schemas).outcome s.registry with
  | error e => rfl
  | ok staged =>
    dsimp only
    cases s.plan staged item.batch with
    | error e => rfl
    | ok p => simp only [EStateM.run_modify]

/-- **An addition that is refused leaves no trace.** -/
theorem allOrNothing_addInPlace (item : Item) (options : CallOptions) :
    (addInPlace item options).AllOrNothing := by
  intro s e t h
  rw [addInPlace_eq] at h
  split at h
  · cases h
    rfl
  · split at h
    · cases h
      rfl
    · cases h

theorem add_eq (s : Store) (item : Item) (options : CallOptions) :
    s.add item options =
      match registerAll s.shadowing s.registry item.batch.schemas with
      | .error e => .error e
      | .ok registry =>
        match s.plan registry item.batch with
        | .error e => .error e
        | .ok p => .ok (({ s.opened options with registry } : Store).apply p) := by
  rw [add, Update.outcome, Update.result, addInPlace_eq]
  cases registerAll s.shadowing s.registry item.batch.schemas with
  | error e => rfl
  | ok r =>
    dsimp only
    cases s.plan r item.batch <;> rfl

end Store

end EntityBase
