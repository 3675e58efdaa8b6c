import EntityBase.Proofs.Store.InPlace

/-!
# Calls — the moves of a store

A history of a store is a list of calls from the empty one. A call that is
refused leaves the store as it is, and a copy takes the place of the store
that it was made from; so every store that a host can come to is
`(Store.empty shadowing).afterAll calls` for some calls.

`Kept` is the way from a step to a history: what the empty store has and
every accepted call keeps, every store has (`Kept.afterAll`).
-/

namespace EntityBase.Store

/-- One call on a store, with what its caller hands over. -/
inductive Call where
  | register (schema : Schema)
  | add (item : Item) (options : CallOptions)
  | removeComponents (ids : List ComponentId) (options : CallOptions)
  | removeEntities (ids : List EntityId) (options : CallOptions)
  | clearChanges
  | clone (options : CloneOptions)

/-- Makes a call on a store, in place. -/
def Call.perform : Call → Update Store Unit
  | .register schema => discard (registerInPlace schema)
  | .add item options => discard (addInPlace item options)
  | .removeComponents ids options => modify (·.removeComponents ids options)
  | .removeEntities ids options => modify (·.removeEntities ids options)
  | .clearChanges => modify (·.clearChanges)
  | .clone options => modify (·.clone options)

/-- What a call comes to: the store after it, or the reason of a refusal. -/
def attempt (s : Store) (call : Call) : Except StoreError Store :=
  call.perform.outcome s

/-- The store after a call, refused or not. -/
def after (s : Store) (call : Call) : Store := call.perform.after s

/-- The store after calls, one after another. -/
def afterAll (s : Store) (calls : List Call) : Store := calls.foldl after s

variable {s t : Store} {call : Call}

theorem attempt_register (s : Store) (schema : Schema) :
    s.attempt (.register schema) = (s.register schema).map (·.1) := by
  rw [attempt, Call.perform, Update.outcome_discard]
  rfl

theorem attempt_add (s : Store) (item : Item) (options : CallOptions) :
    s.attempt (.add item options) = s.add item options := by
  rw [attempt, Call.perform, Update.outcome_discard]
  rfl

theorem after_of_ok (h : s.attempt call = .ok t) : s.after call = t := by
  obtain ⟨_, hresult⟩ := Update.outcome_eq_ok_iff.1 h
  exact Update.after_of_ok hresult

/-- **No call that is refused leaves a trace.** -/
theorem Call.allOrNothing_perform (call : Call) : call.perform.AllOrNothing := by
  cases call with
  | register schema => exact (allOrNothing_registerInPlace schema).discard
  | add item options => exact (allOrNothing_addInPlace item options).discard
  | removeComponents | removeEntities | clearChanges | clone => exact .modify _

/-- A refused call leaves the store as it is. -/
theorem after_of_error {e : StoreError} (h : s.attempt call = .error e) : s.after call = s :=
  call.allOrNothing_perform.after_of_error (Update.outcome_eq_error_iff.1 h)

/-- Whether accepted calls, each with the property `Q`, keep a property. -/
def Kept (Q : Call → Prop) (P : Store → Prop) : Prop :=
  ∀ (s : Store) (call : Call) (t : Store), Q call → P s → s.attempt call = .ok t → P t

/-- **From one call to a history.** A kept property holds after any calls. -/
theorem Kept.afterAll {Q : Call → Prop} {P : Store → Prop} (hkept : Kept Q P)
    {calls : List Call} (hQ : ∀ call ∈ calls, Q call) (hs : P s) : P (s.afterAll calls) := by
  induction calls generalizing s with
  | nil => exact hs
  | cons call rest ih =>
    have hstep : P (s.after call) := by
      cases h : s.attempt call with
      | ok t =>
        rw [after_of_ok h]
        exact hkept s call t (hQ call (List.mem_cons_self ..)) hs h
      | error e =>
        rw [after_of_error h]
        exact hs
    exact ih (fun c hc => hQ c (List.mem_cons_of_mem _ hc)) hstep

end EntityBase.Store
