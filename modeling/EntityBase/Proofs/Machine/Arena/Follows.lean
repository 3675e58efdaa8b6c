import EntityBase.Proofs.Machine.Arena.View
import EntityBase.Proofs.Machine.PlainWords
import EntityBase.Proofs.Machine.Sequence

/-!
# Work that follows a run

Work on an arena **follows** a run if it gives what the run gives on the frames
that are seen from the current place, and the arena after it is the one before
with the state of that run written back. Then nothing but the current frame, the
store, the journal and the settings of the select program that runs can be
different: the other cells and the bookkeeping are as they were, whether the
work succeeded or failed.

A run on the current frame is followed by definition, if it leaves alone whether
a select program runs, and plain runs do. Following passes through sequences and
through work on a frame of its own, as a named word and one level down.
-/

namespace EntityBase.Machine

variable {α β : Type}

/-- **Plain runs begin and end no select program.** -/
theorem Run.Plain.isSome_selection {m : Run α} (h : m.Plain) (env : Env) (s : State) :
    (m env s).2.selection.isSome = s.selection.isSome := by
  induction h generalizing env s with
  | step => rfl
  | env _ _ ih => exact ih env env s
  | policy _ _ ih => exact ih env.limits.strictDefs env s
  | @bind _ _ m f _ _ hm hf =>
    have hfirst := hm env s
    rcases bind_cases m f env s with ⟨x, t, hrun, hbind⟩ | ⟨e, t, hrun, hbind⟩
    · rw [hrun] at hfirst
      rw [hbind]
      exact (hf x env t).trans hfirst
    · rw [hrun] at hfirst
      rw [hbind]
      exact hfirst
  | fail | complain | invalid | incompatible | setStore | journal => rfl
  | pop =>
    unfold Run.pop
    split <;> rfl
  | store =>
    obtain ⟨frame, store?, selection, journal⟩ := s
    cases store? <;> rfl
  | select f =>
    obtain ⟨frame, store?, selection, journal⟩ := s
    cases selection <;> rfl

namespace Run

/-- A run with settings of its own for a select program, and the settings that it
left. -/
def selecting (m : Run α) : Run (α × Option Selection) := fun env s =>
  match m env { s with selection := some {} } with
  | (r, t) => (r.map fun x => (x, t.selection), { t with selection := s.selection })

end Run

namespace Work

variable {levels : Nat} {terms : Terms} {a : Arena} {w : Work α} {m : Run α}

/-- On one arena, work gives what a run gives there, and leaves the arena as it was
but for the state of that run. -/
structure FollowsAt (terms : Terms) (a : Arena) (w : Work α) (m : Run α) : Prop where
  fits : a.Fits (m (a.env terms) a.state).2
  outcome : w terms a = ((m (a.env terms) a.state).1, a.put (m (a.env terms) a.state).2)

/-- Work follows a run wherever so many levels are left. -/
def Follows (levels : Nat) (w : Work α) (m : Run α) : Prop :=
  ∀ terms (a : Arena), a.current < a.cells.size → terms.limits.maxDepth - a.depth = levels →
    FollowsAt terms a w m

/-! ## Steps and sequences -/

theorem FollowsAt.lift (h : m.Plain) : FollowsAt terms a (Work.lift m) m :=
  ⟨h.isSome_selection .., rfl⟩

/-- What is followed is what the run does there. -/
theorem FollowsAt.congr {m' : Run α} (hw : FollowsAt terms a w m)
    (h : m (a.env terms) a.state = m' (a.env terms) a.state) : FollowsAt terms a w m' := by
  obtain ⟨hfits, houtcome⟩ := hw
  rw [h] at hfits houtcome
  exact ⟨hfits, houtcome⟩

/-- What comes second is followed from where the first run ends. -/
theorem FollowsAt.bind {f : α → Work β} {g : α → Run β} (ha : a.current < a.cells.size)
    (hw : FollowsAt terms a w m)
    (hf : ∀ x s, a.Fits s → m (a.env terms) a.state = (.ok x, s) →
      FollowsAt terms (a.put s) (f x) (g x)) :
    FollowsAt terms a (w >>= f) (m >>= g) := by
  obtain ⟨hfits, houtcome⟩ := hw
  cases hrun : m (a.env terms) a.state with
  | mk r s =>
    rw [hrun] at hfits houtcome
    cases r with
    | error e =>
      have hrun' : (m >>= g) (a.env terms) a.state = (.error e, s) := Run.bind_error hrun
      have hwork : (w >>= f) terms a = (.error e, a.put s) := by
        change Work.bind w f _ _ = _
        rw [Work.bind, houtcome]
      exact ⟨by rw [hrun']; exact hfits, by rw [hwork, hrun']⟩
    | ok x =>
      have hrun' : (m >>= g) (a.env terms) a.state = g x (a.env terms) s := Run.bind_ok hrun
      have hwork : (w >>= f) terms a = f x terms (a.put s) := by
        change Work.bind w f _ _ = _
        rw [Work.bind, houtcome]
      obtain ⟨hfits', houtcome'⟩ := hf x s hfits hrun
      rw [Arena.env_put, Arena.state_put ha hfits] at hfits' houtcome'
      rw [Arena.put_put hfits] at houtcome'
      refine ⟨?_, by rw [hwork, hrun', houtcome']⟩
      rw [hrun']
      refine Eq.trans hfits' ?_
      rw [Arena.state_put ha hfits]
      exact hfits

namespace Follows

theorem lift (h : m.Plain) : Follows levels (Work.lift m) m := fun _ _ _ _ => .lift h

theorem pure (x : α) : Follows levels (Pure.pure x) (Pure.pure x) := by
  intro terms a _ _
  refine ⟨rfl, ?_⟩
  change (_, a) = (_, a.put a.state)
  rw [Arena.put_state]
  rfl

theorem fail (e : Failure) : Follows levels (Work.fail e : Work α) (Run.fail e) := by
  intro terms a _ _
  refine ⟨rfl, ?_⟩
  change (_, a) = (_, a.put a.state)
  rw [Arena.put_state]
  rfl

theorem bind {f : α → Work β} {g : α → Run β} (hw : Follows levels w m)
    (hf : ∀ x, Follows levels (f x) (g x)) : Follows levels (w >>= f) (m >>= g) := by
  intro terms a ha hlevels
  refine (hw terms a ha hlevels).bind ha fun x s hfits _ => hf x terms (a.put s) ?_ hlevels
  rw [Arena.size_put]
  exact ha

/-- A plain step before. -/
theorem lift_bind {f : α → Work β} {g : α → Run β} (h : m.Plain)
    (hf : ∀ x, Follows levels (f x) (g x)) : Follows levels (Work.lift m >>= f) (m >>= g) :=
  (lift h).bind hf

theorem ite {w w' : Work α} {m m' : Run α} (c : Prop) [Decidable c] (h : Follows levels w m)
    (h' : Follows levels w' m') : Follows levels (if c then w else w') (if c then m else m') := by
  by_cases hc : c
  · rw [if_pos hc, if_pos hc]
    exact h
  · rw [if_neg hc, if_neg hc]
    exact h'

/-- What is read of the surroundings is the same. -/
theorem env {f : Env → Work β} {g : Env → Run β} (hf : ∀ env, Follows levels (f env) (g env)) :
    Follows levels (Work.lift Run.env >>= f) (Run.env >>= g) :=
  bind (fun _ _ _ _ => ⟨rfl, rfl⟩) hf

/-! ## Work in other surroundings -/

/-- The name of the word is back after it. -/
theorem asWord (hw : Follows levels w m) (name : String) :
    Follows levels (Work.asWord name w) (Machine.asWord name m) := by
  intro terms a ha hlevels
  obtain ⟨hfits, houtcome⟩ := hw terms { a with word := name } ha hlevels
  refine ⟨hfits, ?_⟩
  unfold Work.asWord
  rw [houtcome]
  rfl

/-- The depth of before is there again after work one level down. -/
theorem deeper (hw : Follows levels w m) : Follows (levels + 1) (Work.deeper w) m := by
  intro terms a ha hlevels
  obtain ⟨hfits, houtcome⟩ := hw terms { a with depth := a.depth + 1 } ha
    (by change terms.limits.maxDepth - (a.depth + 1) = levels; omega)
  refine ⟨hfits, ?_⟩
  unfold Work.deeper
  rw [houtcome]
  rfl

/-- **Work on a frame of its own** leaves the cells as they were. -/
theorem onChild {w : Work Flow} {frame : Frame} {body : List Value}
    {runList : List Value → Run Flow} (hw : Follows levels w (runList body)) :
    Follows levels (Work.onChild frame w) (onFrame runList frame body) := by
  intro terms a ha hlevels
  obtain ⟨hfits, houtcome⟩ := hw terms (a.enter { frame }) Arena.current_lt_enter hlevels
  unfold Arena.Fits at hfits
  rw [Arena.env_enter ha, Arena.state_enter] at hfits houtcome
  cases hrun : runList body { a.env terms with outer := a.state.frame :: (a.env terms).outer }
      { a.state with frame } with
  | mk r s =>
    rw [hrun] at hfits houtcome
    have hframe : onFrame runList frame body (a.env terms) a.state
        = (r.map fun _ => s.frame.items, { s with frame := a.state.frame }) := by
      unfold onFrame
      rw [hrun]
      cases r <;> rfl
    have hchild : Work.onChild frame w terms a
        = (r.map fun _ => s.frame.items, a.put { s with frame := a.state.frame }) := by
      unfold Work.onChild
      rw [houtcome]
      dsimp only
      rw [Arena.last_put_enter, Arena.leave_put_enter]
      rfl
    constructor
    · rw [hframe]
      exact hfits
    · rw [hframe, hchild]

/-- Settings of a select program that are set up are there while it runs, and those
of before are back after it. -/
theorem selecting (hw : ∀ terms (a : Arena), a.current < a.cells.size →
      terms.limits.maxDepth - a.depth = levels → a.selections ≠ [] → FollowsAt terms a w m) :
    Follows levels (Work.selecting w) (Run.selecting m) := by
  intro terms a ha hlevels
  let b : Arena := { a with selections := {} :: a.selections }
  obtain ⟨hfits, houtcome⟩ := hw terms b ha hlevels (List.cons_ne_nil _ _)
  refine ⟨rfl, ?_⟩
  cases hrun : m (b.env terms) b.state with
  | mk r s =>
    rw [hrun] at hfits houtcome
    have hrun' : Run.selecting m (a.env terms) a.state
        = (r.map fun x => (x, s.selection), { s with selection := a.state.selection }) := by
      change m (a.env terms) { a.state with selection := some {} } = _ at hrun
      rw [Run.selecting, hrun]
    have hwork : Work.selecting w terms a
        = (r.map fun x => (x, s.selection), a.put { s with selection := a.state.selection }) := by
      change ((w terms b).1.map fun x => (x, (w terms b).2.selections.head?),
        { (w terms b).2 with selections := (w terms b).2.selections.tail }) = _
      rw [houtcome]
      dsimp only
      rw [Arena.head?_selections_put hfits, Arena.tail_selections_put hfits]
      exact congrArg _ (Arena.put_selecting {} s)
    rw [hwork, hrun']

end Follows

end Work

end EntityBase.Machine
