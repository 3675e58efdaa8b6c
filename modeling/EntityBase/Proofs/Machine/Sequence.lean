import EntityBase.Machine.Arena.Basic

/-!
# Sequences — one run after another

What comes second runs where the first run ends well, from the state that it
left; where the first run fails, so does the sequence. `bind_cases` is all that
a property of runs needs to know of them to pass through sequences. Work on an arena
goes the same two ways.
-/

namespace EntityBase.Machine

namespace Run

variable {α β : Type} {m : Run α} {f : α → Run β} {env : Env} {s t : State}

theorem bind_ok {x : α} (h : m env s = (.ok x, t)) : (m >>= f) env s = f x env t := by
  change Run.bind m f env s = _
  rw [Run.bind, h]

theorem bind_error {e : Failure} (h : m env s = (.error e, t)) :
    (m >>= f) env s = (.error e, t) := by
  change Run.bind m f env s = _
  rw [Run.bind, h]

/-- **The two ways of a sequence.** -/
theorem bind_cases (m : Run α) (f : α → Run β) (env : Env) (s : State) :
    (∃ x t, m env s = (.ok x, t) ∧ (m >>= f) env s = f x env t) ∨
      ∃ e t, m env s = (.error e, t) ∧ (m >>= f) env s = (.error e, t) := by
  cases hrun : m env s with
  | mk r t =>
    cases r with
    | ok x => exact .inl ⟨x, t, rfl, bind_ok hrun⟩
    | error e => exact .inr ⟨e, t, rfl, bind_error hrun⟩

/-- A run that goes on as `f` says where `m` succeeds, and fails where it fails. -/
theorem eq_bind {k : Run β} (hok : ∀ env s x t, m env s = (.ok x, t) → k env s = f x env t)
    (herror : ∀ env s e t, m env s = (.error e, t) → k env s = (.error e, t)) :
    k = m >>= f := by
  funext env s
  rcases bind_cases m f env s with ⟨x, t, hrun, hbind⟩ | ⟨e, t, hrun, hbind⟩
  · rw [hbind, hok env s x t hrun]
  · rw [hbind, herror env s e t hrun]

theorem bind_assoc {γ : Type} (m : Run α) (f : α → Run β) (g : β → Run γ) :
    m >>= f >>= g = m >>= fun x => f x >>= g := by
  refine eq_bind (fun env s x t h => ?_) fun env s e t h => bind_error (bind_error h)
  change Run.bind (m >>= f) g env s = Run.bind (f x) g env t
  unfold Run.bind
  rw [bind_ok h]

end Run

namespace Work

variable {α β γ : Type} {terms : Terms} {a b : Arena}

theorem bind_ok {w : Work α} {f : α → Work β} {x : α} (h : w terms a = (.ok x, b)) :
    (w >>= f) terms a = f x terms b := by
  change Work.bind w f terms a = _
  rw [Work.bind, h]

theorem bind_error {w : Work α} {f : α → Work β} {e : Failure} (h : w terms a = (.error e, b)) :
    (w >>= f) terms a = (.error e, b) := by
  change Work.bind w f terms a = _
  rw [Work.bind, h]

theorem bind_assoc (w : Work α) (f : α → Work β) (g : β → Work γ) :
    w >>= f >>= g = w >>= fun x => f x >>= g := by
  funext terms a
  rcases h : w terms a with ⟨_ | x, b⟩
  · rw [bind_error (bind_error h), bind_error h]
  · rw [bind_ok h]
    change Work.bind (w >>= f) g terms a = Work.bind (f x) g terms b
    unfold Work.bind
    rw [bind_ok h]

end Work

end EntityBase.Machine
