import EntityBase.StoreError

/-!
# Updates — calls that change a value in place

A call on a registry or a store writes to it as it goes, and may be refused
on the way. Nothing takes back what was written before a refusal: the value
stays as the call leaves it, whatever the call comes to. That a refused call
leaves no trace (`Update.AllOrNothing`) is therefore a matter of the order of
its steps, and of each call by itself.
-/

namespace EntityBase

/-- A call on a value of type `σ`: a result or a refusal, and the value as the
call leaves it. -/
abbrev Update (σ α : Type) : Type := EStateM StoreError σ α

namespace Update

variable {σ τ α β : Type}

/-- What a call comes to for a caller who drops the value along with a refusal. -/
def result (m : Update σ α) (s : σ) : Except StoreError (σ × α) :=
  match m.run s with
  | .ok a t => .ok (t, a)
  | .error e _ => .error e

/-- The value that a call leads to, for a caller who has no use for its result. -/
def outcome (m : Update σ α) (s : σ) : Except StoreError σ := (m.result s).map (·.1)

/-- The value after a call, refused or not. -/
def after (m : Update σ α) (s : σ) : σ :=
  match m.run s with
  | .ok _ t | .error _ t => t

/-- Makes a call on a copy of some value and gives the copy. A call that is
refused drops it. -/
def onCopy (copy : τ) (m : Update τ α) : Update σ τ := MonadExcept.ofExcept (outcome m copy)

/-! ## Steps -/

@[simp] theorem run_throw (e : StoreError) (s : σ) :
    (throw e : Update σ α).run s = .error e s := rfl

@[simp] theorem run_ofExcept (x : Except StoreError α) (s : σ) :
    (MonadExcept.ofExcept x : Update σ α).run s =
      match x with
      | .ok a => .ok a s
      | .error e => .error e s := by
  cases x <;> rfl

@[simp] theorem run_map (f : α → β) (m : Update σ α) (s : σ) :
    (f <$> m).run s =
      match m.run s with
      | .ok a t => .ok (f a) t
      | .error e t => .error e t := by
  change EStateM.map f m s = _
  unfold EStateM.map EStateM.run
  cases m s <;> rfl

/-- Nobody has to take the result of a call. -/
theorem run_discard (m : Update σ α) (s : σ) :
    (discard m).run s =
      match m.run s with
      | .ok _ t => .ok () t
      | .error e t => .error e t :=
  run_map (fun _ => ()) m s

/-! ## Outcomes -/

variable {m : Update σ α} {s t : σ} {a : α} {e : StoreError}

theorem result_eq_ok_iff : m.result s = .ok (t, a) ↔ m.run s = .ok a t := by
  unfold result
  cases m.run s <;> simp [and_comm]

theorem result_eq_error_iff : m.result s = .error e ↔ ∃ t, m.run s = .error e t := by
  unfold result
  cases m.run s <;> simp

theorem outcome_eq_ok_iff : m.outcome s = .ok t ↔ ∃ a, m.result s = .ok (t, a) := by
  unfold outcome
  cases m.result s <;> simp [Except.map, Prod.ext_iff]

theorem outcome_eq_error_iff : m.outcome s = .error e ↔ m.result s = .error e := by
  unfold outcome
  cases m.result s <;> simp [Except.map]

theorem outcome_discard (m : Update σ α) (s : σ) : (discard m).outcome s = m.outcome s := by
  unfold outcome result
  rw [run_discard]
  cases m.run s <;> rfl

theorem outcome_bind (m : Update σ α) (f : α → Update σ β) (s : σ) :
    outcome (m >>= f) s =
      match m.result s with
      | .ok (t, a) => (f a).outcome t
      | .error e => .error e := by
  unfold outcome result
  rw [EStateM.run_bind]
  cases m.run s <;> rfl

theorem after_of_ok (h : m.result s = .ok (t, a)) : m.after s = t := by
  rw [after, result_eq_ok_iff.1 h]

/-! ## All or nothing -/

/-- A call that leaves the value as it was whenever it is refused. -/
def AllOrNothing (m : Update σ α) : Prop := ∀ s e t, m.run s = .error e t → t = s

namespace AllOrNothing

theorem after_of_error (hm : m.AllOrNothing) (h : m.result s = .error e) : m.after s = s := by
  obtain ⟨t, hrun⟩ := result_eq_error_iff.1 h
  rw [after, hrun]
  exact hm s e t hrun

theorem modify (f : σ → σ) : AllOrNothing (modify f : Update σ Unit) :=
  fun _ _ _ h => nomatch h

theorem discard (hm : m.AllOrNothing) : AllOrNothing (discard m) := by
  intro s e t h
  rw [run_discard] at h
  cases hrun : m.run s with
  | ok a u =>
    rw [hrun] at h
    cases h
  | error e' u =>
    rw [hrun] at h
    cases h
    exact hm s _ _ hrun

end AllOrNothing

end Update

end EntityBase
