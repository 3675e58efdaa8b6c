import EntityBase.Proofs.Machine.Arena.View
import EntityBase.Proofs.Machine.Sequence
import EntityBase.Proofs.Machine.Stepwise.Basic

/-!
# Chains — steps put together

What was begun **ends** if a chain of steps leads from there to an outcome, ahead of
whatever waits and without touching it. A call that something waits for ends in two
chains, one to the end of the call and one on from what waits (`Ends.before_ok`,
`Ends.before_error`). A beginning of work is one that ends with the outcome of that
work. Such beginnings follow the sequences of which work is made.
-/

namespace EntityBase.Machine

variable {α β γ : Type} {terms : Terms} {a a' : Arena}

/-! ## Chains of steps -/

namespace Stage

variable {s t u : Stage} {w : List Pending} {p : Pending}

theorem after_succ (s : Stage) (n : Nat) :
    s.after terms (n + 1) = (s.after terms n).step terms :=
  Function.iterate_succ_apply' ..

theorem after_add (s : Stage) (m n : Nat) :
    s.after terms (m + n) = (s.after terms m).after terms n := by
  rw [Nat.add_comm]
  exact Function.iterate_add_apply ..

/-- Where nothing waits any more, nothing happens. -/
theorem after_ended (r : Except Failure Flow) (a : Arena) (n : Nat) :
    (⟨.ended r, [], a⟩ : Stage).after terms n = ⟨.ended r, [], a⟩ :=
  Function.iterate_fixed rfl n

/-- One stage leads to another one, and all the way so much waits. -/
def Through (terms : Terms) (w : List Pending) (s t : Stage) : Prop :=
  ∃ n, s.after terms n = t ∧ ∀ i ≤ n, w <:+ (s.after terms i).waiting

namespace Through

theorem refl (h : w <:+ s.waiting) : Through terms w s s := by
  refine ⟨0, rfl, fun i hi => ?_⟩
  obtain rfl := Nat.le_zero.mp hi
  exact h

theorem head (h : w <:+ s.waiting) (ht : Through terms w (s.step terms) t) :
    Through terms w s t := by
  obtain ⟨n, hn, hw⟩ := ht
  refine ⟨n + 1, hn, fun i hi => ?_⟩
  cases i with
  | zero => exact h
  | succ i => exact hw i (Nat.le_of_succ_le_succ hi)

theorem trans (hst : Through terms w s t) (htu : Through terms w t u) : Through terms w s u := by
  obtain ⟨m, rfl, hm⟩ := hst
  obtain ⟨n, rfl, hn⟩ := htu
  refine ⟨m + n, after_add s m n, fun i hi => ?_⟩
  rcases Nat.le_total i m with him | hmi
  · exact hm i him
  · obtain ⟨j, rfl⟩ := Nat.exists_eq_add_of_le hmi
    rw [after_add]
    exact hn j (by omega)

/-- Less waits, too. -/
theorem weaken (h : Through terms (p :: w) s t) : Through terms w s t := by
  obtain ⟨n, hn, hw⟩ := h
  exact ⟨n, hn, fun i hi => (List.suffix_cons p w).trans (hw i hi)⟩

end Through

end Stage

open Stage (Through on)

/-- **What was begun ends**, ahead of whatever waits, with an outcome. -/
def Ends (terms : Terms) (begun : Except Failure Course × Arena)
    (outcome : Except Failure Flow × Arena) : Prop :=
  ∀ w, (on w begun).Through terms w ⟨.ended outcome.1, w, outcome.2⟩

namespace Ends

variable {begun : Except Failure Course × Arena} {outcome : Except Failure Flow × Arena}
  {c : Course} {p : Pending} {f : Flow} {e : Failure}

theorem flow (f : Flow) (a : Arena) : Ends terms (.ok (.flow f), a) (.ok f, a) :=
  fun _ => .refl (List.suffix_refl _)

theorem error (e : Failure) (a : Arena) : Ends terms (.error e, a) (.error e, a) :=
  fun _ => .refl (List.suffix_refl _)

/-- What fails at once ends with that failure. -/
theorem eq_of_error (h : Ends terms (.error e, a) outcome) : outcome = (.error e, a) := by
  obtain ⟨n, hn, -⟩ := h []
  have hstage : (⟨.ended (.error e), [], a⟩ : Stage) = ⟨.ended outcome.1, [], outcome.2⟩ :=
    (Stage.after_ended _ a n).symm.trans hn
  simp only [Stage.mk.injEq, Focus.ended.injEq] at hstage
  exact Prod.ext hstage.1.symm hstage.2.2.symm

/-- What is called is begun in a step. -/
theorem call {c : Call} (h : Ends terms (c.start terms a) outcome) :
    Ends terms (.ok (.call c []), a) outcome :=
  fun w => .head (List.suffix_refl _) (h w)

/-- What waits goes on after a call that ended well. -/
theorem before_ok (hfirst : Ends terms (.ok c, a) (.ok f, a'))
    (hthen : Ends terms (p.resume f terms a') outcome) :
    Ends terms (.ok (c.before p), a) outcome := by
  intro w
  have hwaits : on w (.ok (c.before p), a) = on (p :: w) (.ok c, a) := by
    simp [on, Course.before]
  rw [hwaits]
  exact (hfirst (p :: w)).weaken.trans (.head (List.suffix_cons p w) (hthen w))

/-- What waits puts back what it changed after a call that failed. -/
theorem before_error (hfirst : Ends terms (.ok c, a) (.error e, a')) :
    Ends terms (.ok (c.before p), a) (.error e, p.unwind a') := by
  intro w
  have hwaits : on w (.ok (c.before p), a) = on (p :: w) (.ok c, a) := by
    simp [on, Course.before]
  rw [hwaits]
  exact (hfirst (p :: w)).weaken.trans
    (.head (List.suffix_cons p w) (.refl (List.suffix_refl _)))

end Ends

/-! ## Beginnings of work -/

namespace Work

/-- One work after another; a failure of the first one puts something back. -/
def thenOr (undo : Arena → Arena) (w : Work α) (f : α → Work β) : Work β := fun terms a =>
  match w terms a with
  | (.ok x, a) => f x terms a
  | (.error e, a) => (.error e, undo a)

theorem thenOr_ok {undo : Arena → Arena} {w : Work α} {f : α → Work β} {x : α}
    (h : w terms a = (.ok x, a')) : w.thenOr undo f terms a = f x terms a' := by
  rw [thenOr, h]

theorem thenOr_error {undo : Arena → Arena} {w : Work α} {f : α → Work β} {e : Failure}
    (h : w terms a = (.error e, a')) : w.thenOr undo f terms a = (.error e, undo a') := by
  rw [thenOr, h]

/-- What puts something back after a sequence does so after each part of it. -/
theorem thenOr_bind (undo : Arena → Arena) (w : Work α) (f : α → Work β) (g : β → Work γ) :
    (w >>= f).thenOr undo g = w.thenOr undo fun x => (f x).thenOr undo g := by
  funext terms a
  rcases h : w terms a with ⟨_ | x, a'⟩
  · rw [thenOr_error (bind_error h), thenOr_error h]
  · rw [thenOr_ok h, thenOr, thenOr, bind_ok h]

theorem depth_lift (m : Run α) : (Work.lift m terms a).2.depth = a.depth := rfl

end Work

/-- **A beginning of work**: what it begins on an arena ends with the outcome of the
work there. The work comes back to the level at which it began. -/
structure Begins (terms : Terms) (a : Arena) (start : Work Course) (work : Work Flow) : Prop where
  ends : Ends terms (start terms a) (work terms a)
  depth : (work terms a).2.depth = a.depth

namespace Begins

variable {start : Work Course} {work : Work Flow} {c : Course} {p : Pending}

theorem flow (f : Flow) : Begins terms a (pure (.flow f)) (pure f) := ⟨.flow f a, rfl⟩

theorem call {c : Call} (h : Begins terms a c.start work) :
    Begins terms a (pure (.call c [])) work :=
  ⟨.call h.ends, h.depth⟩

/-- Both fail at once, and for the same reason. -/
theorem error {e : Failure} (hstart : start terms a = (.error e, a'))
    (hwork : work terms a = (.error e, a')) (hdepth : a'.depth = a.depth) :
    Begins terms a start work := by
  constructor
  · rw [hstart, hwork]
    exact .error e a'
  · rw [hwork]
    exact hdepth

/-- Both begin with the same work. -/
theorem bind {w : Work α} {f : α → Work Course} {g : α → Work Flow}
    (hdepth : (w terms a).2.depth = a.depth)
    (h : ∀ x a', w terms a = (.ok x, a') → Begins terms a' (f x) (g x)) :
    Begins terms a (w >>= f) (w >>= g) := by
  rcases hw : w terms a with ⟨e | x, a'⟩
  · rw [hw] at hdepth
    exact .error (Work.bind_error hw) (Work.bind_error hw) hdepth
  · rw [hw] at hdepth
    obtain ⟨hends, hdepth'⟩ := h x a' hw
    constructor
    · rw [Work.bind_ok hw, Work.bind_ok hw]
      exact hends
    · rw [Work.bind_ok hw]
      exact hdepth'.trans hdepth

/-- Both begin with the same run on the current frame. -/
theorem lift_bind {m : Run α} {f : α → Work Course} {g : α → Work Flow}
    (h : ∀ x a', a'.depth = a.depth → Begins terms a' (f x) (g x)) :
    Begins terms a (Work.lift m >>= f) (Work.lift m >>= g) :=
  bind (Work.depth_lift m) fun x a' hrun =>
    h x a' ((congrArg (fun o => o.2.depth) hrun).symm.trans (Work.depth_lift m))

/-- What runs no list. -/
theorem lift (m : Run Flow) :
    Begins terms a (Work.lift m >>= fun flow => pure (.flow flow)) (Work.lift m) := by
  refine ⟨?_, Work.depth_lift m⟩
  rcases h : Work.lift m terms a with ⟨e | f, a'⟩
  · rw [Work.bind_error h]
    exact .error e a'
  · rw [Work.bind_ok h]
    exact .flow f a'

theorem ite (b : Prop) [Decidable b] {start' : Work Course} {work' : Work Flow}
    (h : Begins terms a start work) (h' : Begins terms a start' work') :
    Begins terms a (if b then start else start') (if b then work else work') := by
  by_cases hb : b
  · rw [if_pos hb, if_pos hb]
    exact h
  · rw [if_neg hb, if_neg hb]
    exact h'

/-- The same work begins on another arena. -/
theorem elsewhere {b : Arena} {start' : Work Course} {work' : Work Flow} (h : Begins terms b start' work')
    (hstart : start terms a = start' terms b) (hwork : work terms a = work' terms b)
    (hdepth : b.depth = a.depth) : Begins terms a start work := by
  constructor
  · rw [hstart, hwork]
    exact h.ends
  · rw [hwork]
    exact h.depth.trans hdepth

/-- **A call that something waits for.** -/
theorem before {k : Flow → Work Flow} (hp : ∀ b, (p.unwind b).depth = b.depth)
    (hfirst : Begins terms a (pure c) work)
    (hthen : ∀ flow a', a'.depth = a.depth → Begins terms a' (p.resume flow) (k flow)) :
    Begins terms a (pure (c.before p)) (work.thenOr p.unwind k) := by
  obtain ⟨hends, hdepth⟩ := hfirst
  rcases hwork : work terms a with ⟨e | flow, a'⟩
  · rw [hwork] at hends hdepth
    constructor
    · rw [Work.thenOr_error hwork]
      exact hends.before_error
    · rw [Work.thenOr_error hwork]
      exact (hp a').trans hdepth
  · rw [hwork] at hends hdepth
    obtain ⟨hends', hdepth'⟩ := hthen flow a' hdepth
    constructor
    · rw [Work.thenOr_ok hwork]
      exact hends.before_ok hends'
    · rw [Work.thenOr_ok hwork]
      exact hdepth'.trans hdepth

/-- What waits has nothing to put back. -/
theorem before_bind {k : Flow → Work Flow} (hp : p.unwind = id)
    (hfirst : Begins terms a (pure c) work)
    (hthen : ∀ flow a', a'.depth = a.depth → Begins terms a' (p.resume flow) (k flow)) :
    Begins terms a (pure (c.before p)) (work >>= k) := by
  have hbefore := hfirst.before (p := p) (fun b => by rw [hp]; rfl) hthen
  rw [hp] at hbefore
  exact hbefore

/-- **A list on a frame of its own.** The frame is left whatever comes of it. -/
theorem child {frame : Frame} {body : List Value} {purpose : Purpose} {w : Work Flow}
    {undo : Arena → Arena} {k : List Value → Work Flow}
    (hpurpose : ∀ b, (Pending.child purpose).unwind b = undo b.leave)
    (hundo : ∀ b, (undo b).depth = b.depth)
    (hlist : Begins terms (a.enter { frame }) (startList body) w)
    (hnext : ∀ left a', a'.depth = a.depth → Begins terms a' (purpose.next left) (k left)) :
    Begins terms a (Work.openChild frame body purpose)
      ((Work.onChild frame w).thenOr undo k) := by
  have hcall : Begins terms (a.enter { frame })
      (pure ((Course.call (.list body) []).before (.child purpose)))
      (w.thenOr (Pending.child purpose).unwind fun _ => Work.leaveChild >>= k) :=
    before (fun b => (congrArg Arena.depth (hpurpose b)).trans (hundo b.leave)) (call hlist)
      fun flow a' ha' => bind rfl fun left a'' hleave => hnext left a'' <| by
        obtain rfl : a'.leave = a'' := congrArg Prod.snd hleave
        exact ha'
  refine hcall.elsewhere rfl ?_ rfl
  unfold Work.thenOr Work.onChild
  rcases w terms (a.enter { frame }) with ⟨e | flow, a'⟩
  · exact congrArg (Prod.mk _) (hpurpose a').symm
  · rfl

end Begins

end EntityBase.Machine
