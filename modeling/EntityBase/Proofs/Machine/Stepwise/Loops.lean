import EntityBase.Proofs.Machine.Stepwise.Agreement
import EntityBase.Proofs.Machine.Stepwise.Invariants

/-!
# Loops — the passes that are made in a row

A loop that waits is in a pass that was begun below the ceiling, and it has waited
ever since (`exists_begun`). That pass is over when the body is, and the body ends
with the outcome of the evaluator, so what comes up after it is known. Going back from
pass to pass, every pass that is due stands at the end of a row of passes from the
place where the loop began, each of which left something true on top
(`passes_of_pass`). And such a row is made step by step (`through_passes`).
-/

namespace EntityBase.Machine

variable {terms : Terms} {s t : Stage} {w : List Pending} {body : List Value} {passes : Nat}
  {a b : Arena}

/-- **Passes of a loop in a row**: from one arena to another one, the body is run so
many times, and each time it ends without an escape and leaves something true on top,
which is taken. -/
inductive Arena.Passes (terms : Terms) (body : List Value) : Nat → Arena → Arena → Prop
  | zero (a : Arena) : Passes terms body 0 a a
  | succ {n : Nat} {a b c : Arena} {v : Value} {rest : List Value} (h : Passes terms body n a b)
      (hbody : Arena.evalList terms.limits.maxDepth body terms b = (.ok .next, c))
      (hitems : c.frame.items = v :: rest) (hv : v.truthy = true) :
      Passes terms body (n + 1) a (c.setFrame { c.frame with items := rest })

namespace Stage

/-! ## A row of passes, step by step -/

/-- The body of a loop is run while the loop waits. -/
theorem through_body (terms : Terms) (body : List Value) (w : List Pending) (b : Arena) :
    let outcome := Arena.evalList terms.limits.maxDepth body terms b
    (⟨.call (.list body), w, b⟩ : Stage).Through terms w ⟨.ended outcome.1, w, outcome.2⟩ :=
  (Ends.call (begins_evalList_maxDepth b body).ends) w

/-- **Passes that can be made in a row are made**, up to the ceiling. -/
theorem through_passes (h : Arena.Passes terms body passes a b)
    (hpasses : passes ≤ terms.limits.loopLimit) (w : List Pending) :
    (⟨.call (.pass body 0), w, a⟩ : Stage).Through terms w ⟨.call (.pass body passes), w, b⟩ := by
  induction h with
  | zero a => exact .refl (List.suffix_refl _)
  | @succ n a b c v rest _ hbody hitems hv ih =>
    refine (ih (Nat.le_of_succ_le hpasses)).trans (.head (List.suffix_refl _) ?_)
    rw [step_pass_of_lt hpasses]
    have hrun := through_body terms body (.loop body (n + 1) :: w) b
    rw [hbody] at hrun
    refine hrun.weaken.trans (.head (List.suffix_cons _ _) ?_)
    have hstep : (⟨.ended (.ok .next), .loop body (n + 1) :: w, c⟩ : Stage).step terms
        = ⟨.call (.pass body (n + 1)), w, c.setFrame { c.frame with items := rest }⟩ := by
      change on w ((Pending.loop body (n + 1)).resume .next terms c) = _
      rw [resume_loop hitems, if_pos hv]
      rfl
    rw [hstep]
    exact .refl (List.suffix_refl _)

/-! ## Back to the beginning of a pass -/

theorem suffix_of_append {p : Pending} {front l : List Pending} (h : p :: w <:+ front ++ l)
    (hp : p ∉ front) : p :: w <:+ l := by
  induction front with
  | nil => exact h
  | cons q front ih =>
    rcases List.suffix_cons_iff.mp h with heq | hsuffix
    · obtain ⟨rfl, -⟩ := List.cons.inj heq
      exact absurd List.mem_cons_self hp
    · exact ih hsuffix fun hmem => hp (List.mem_cons_of_mem q hmem)

/-- A loop does not wait for anything mild that was not begun before. -/
theorem suffix_of_mild {depth : Nat} {begun : Except Failure Course × Arena} {l : List Pending}
    (h : MildOutcome Course.Mild depth begun)
    (hloop : .loop body passes :: w <:+ (on l begun).waiting) : .loop body passes :: w <:+ l := by
  cases h with
  | error => exact hloop
  | ok _ hc => exact suffix_of_append hloop fun hmem => nomatch (hc.waiting _ hmem).2

/-- A loop that waits was waiting before, or a pass of it was begun just now. -/
theorem Moves.begun (h : Moves terms s t) (hloop : .loop body passes :: w <:+ t.waiting) :
    .loop body passes :: w <:+ s.waiting ∨
      ∃ n b, passes = n + 1 ∧ n < terms.limits.loopLimit ∧
        s = ⟨.call (.pass body n), w, b⟩ ∧ t = ⟨.call (.list body), .loop body passes :: w, b⟩ := by
  cases h with
  | rests | tooDeep | runsAway => exact .inl hloop
  | opens items l a =>
    have hopened : .loop body passes :: w <:+ [.items items, .level] ++ l := hloop
    exact .inl (suffix_of_append hopened (by simp))
  | closes | again | done | fails => exact .inl (hloop.trans (List.suffix_cons _ _))
  | pass body' n l a hn =>
    rcases List.suffix_cons_iff.mp hloop with heq | hsuffix
    · obtain ⟨hp, rfl⟩ := List.cons.inj heq
      obtain ⟨rfl, rfl⟩ := Pending.loop.inj hp
      exact .inr ⟨n, a, rfl, hn, rfl, rfl⟩
    · exact .inl hsuffix
  | starts c l a hmild => exact .inl (suffix_of_mild (hmild terms a) hloop)
  | resumes flow p l a _ _ hmild =>
    exact .inl ((suffix_of_mild (hmild terms a) hloop).trans (List.suffix_cons _ _))

/-- **Where the pass was begun in which a loop waits**, and it has waited ever since. -/
theorem exists_begun (hs : ∀ p ∈ s.waiting, p.isLoop = false) {k : Nat}
    (h : .loop body passes :: w <:+ (s.after terms k).waiting) :
    ∃ m n b, m < k ∧ passes = n + 1 ∧ n < terms.limits.loopLimit ∧
      s.after terms m = ⟨.call (.pass body n), w, b⟩ ∧
      s.after terms (m + 1) = ⟨.call (.list body), .loop body passes :: w, b⟩ ∧
      ∀ i, m < i → i ≤ k → .loop body passes :: w <:+ (s.after terms i).waiting := by
  induction k with
  | zero => exact nomatch hs _ (h.subset List.mem_cons_self)
  | succ k ih =>
    have hloop := h
    rw [after_succ] at hloop
    rcases (moves_step terms (s.after terms k)).begun hloop with
      hbefore | ⟨n, b, hpasses, hn, hstart, hnext⟩
    · obtain ⟨m, n, b, hm, hpasses, hn, hstart, hnext, hsince⟩ := ih hbefore
      refine ⟨m, n, b, Nat.lt_succ_of_lt hm, hpasses, hn, hstart, hnext, fun i hmi hik => ?_⟩
      rcases Nat.eq_or_lt_of_le hik with rfl | hik
      · exact h
      · exact hsince i hmi (Nat.le_of_lt_succ hik)
    · refine ⟨k, n, b, Nat.lt_succ_self k, hpasses, hn, hstart, ?_, fun i hki hik => ?_⟩
      · rw [after_succ]
        exact hnext
      · obtain rfl : i = k + 1 := Nat.le_antisymm hik hki
        exact h

/-- A loop waits no longer when the body of its pass has ended. -/
theorem Moves.after_body {r : Except Failure Flow} (h : Moves terms ⟨.ended r, .loop body passes :: w, a⟩ t) :
    t.waiting = w := by
  cases h with
  | again | done | fails => rfl
  | resumes _ _ _ _ _ hloop => cases hloop

theorem fresh_of_mild {depth : Nat} {begun : Except Failure Course × Arena} {l : List Pending}
    (h : MildOutcome Course.Mild depth begun)
    (hfocus : (on l begun).focus = .call (.pass body passes)) : passes = 0 := by
  cases h with
  | error => cases hfocus
  | ok _ hc => exact hc.fresh body passes hfocus

/-- A pass that is due is the first one of a loop, or the pass before it left something
true on top. -/
theorem Moves.due (h : Moves terms s t) (ht : t.focus = .call (.pass body passes)) :
    passes = 0 ∨ ∃ w c v rest, s = ⟨.ended (.ok .next), .loop body passes :: w, c⟩ ∧
      c.frame.items = v :: rest ∧ v.truthy = true ∧
      t = ⟨.call (.pass body passes), w, c.setFrame { c.frame with items := rest }⟩ := by
  cases h with
  | rests | opens | tooDeep | closes | pass | runsAway | done | fails => cases ht
  | @again _ _ w c v rest hitems hv =>
    obtain ⟨rfl, rfl⟩ := Call.pass.inj (Focus.call.inj ht)
    exact .inr ⟨w, c, v, rest, rfl, hitems, hv, rfl⟩
  | starts _ _ a hmild => exact .inl (fresh_of_mild (hmild terms a) ht)
  | resumes _ _ _ a _ _ hmild => exact .inl (fresh_of_mild (hmild terms a) ht)

/-- A loop waits all through its pass and no longer, so the end of the body is the stage
at which nothing else waits. -/
theorem body_ended {k m : Nat} {b c : Arena} {r : Except Failure Flow}
    (hend : s.after terms k = ⟨.ended r, .loop body passes :: w, c⟩) (hmk : m < k)
    (hbegin : s.after terms (m + 1) = ⟨.call (.list body), .loop body passes :: w, b⟩)
    (hsince : ∀ i, m < i → i ≤ k → .loop body passes :: w <:+ (s.after terms i).waiting) :
    Arena.evalList terms.limits.maxDepth body terms b = (r, c) := by
  obtain ⟨n, hn, hwaits⟩ := through_body terms body (.loop body passes :: w) b
  rw [← hbegin] at hn hwaits
  simp only [← after_add] at hn hwaits
  have hover {i : Nat} {r : Except Failure Flow} {d : Arena}
      (hi : s.after terms i = ⟨.ended r, .loop body passes :: w, d⟩) :
      ¬ .loop body passes :: w <:+ (s.after terms (i + 1)).waiting := by
    have hmove := moves_step terms (s.after terms i)
    rw [← after_succ, hi] at hmove
    rw [hmove.after_body]
    exact fun hsuffix => Nat.not_succ_le_self _ hsuffix.length_le
  rcases Nat.lt_trichotomy (m + 1 + n) k with hlt | rfl | hgt
  · exact absurd (hsince (m + 1 + n + 1) (by omega) hlt) (hover hn)
  · rw [hend] at hn
    simp only [Stage.mk.injEq, Focus.ended.injEq, true_and] at hn
    exact Prod.ext hn.1.symm hn.2.symm
  · have hnext := hwaits (k - m) (by omega)
    rw [show m + 1 + (k - m) = k + 1 by omega] at hnext
    exact absurd hnext (hover hend)

/-- **Every pass that is due comes after a row of passes** from the place where its loop
began. -/
theorem passes_of_pass (hs : ∀ p ∈ s.waiting, p.isLoop = false)
    (hfocus : ∀ body passes, s.focus ≠ .call (.pass body passes)) {k : Nat}
    (h : s.after terms k = ⟨.call (.pass body passes), w, a⟩) :
    passes ≤ terms.limits.loopLimit ∧ ∃ j b, j ≤ k ∧
      s.after terms j = ⟨.call (.pass body 0), w, b⟩ ∧ Arena.Passes terms body passes b a := by
  induction k using Nat.strongRecOn generalizing passes a with
  | ind k ih =>
    cases k with
    | zero => exact absurd (congrArg Stage.focus h) (hfocus body passes)
    | succ k =>
      have hstep := h
      rw [after_succ] at hstep
      have hmove := moves_step terms (s.after terms k)
      rw [hstep] at hmove
      rcases hmove.due rfl with rfl | ⟨w', c, v, rest, hend, hitems, hv, hnext⟩
      · exact ⟨Nat.zero_le _, k + 1, a, Nat.le_refl _, h, .zero a⟩
      · simp only [Stage.mk.injEq, true_and] at hnext
        obtain ⟨rfl, rfl⟩ := hnext
        have hwaits : .loop body passes :: w <:+ (s.after terms k).waiting :=
          ⟨[], (congrArg Stage.waiting hend).symm⟩
        obtain ⟨m, n, b, hmk, rfl, hn, hstart, hbegin, hsince⟩ := exists_begun hs hwaits
        have hbody := body_ended hend hmk hbegin hsince
        obtain ⟨-, j, d, hjm, hfirst, hrow⟩ := ih m (Nat.lt_succ_of_lt hmk) hstart
        exact ⟨hn, j, d, by omega, hfirst, hrow.succ hbody hitems hv⟩

/-- No loop begins more passes than the ceiling allows. -/
theorem passes_le (hs : ∀ p ∈ s.waiting, p.isLoop = false) {k : Nat}
    (h : .loop body passes ∈ (s.after terms k).waiting) : passes ≤ terms.limits.loopLimit := by
  obtain ⟨front, w, hwaits⟩ := List.append_of_mem h
  obtain ⟨m, n, b, -, rfl, hn, -⟩ := exists_begun hs ⟨front, hwaits.symm⟩
  exact hn

end Stage

end EntityBase.Machine
