import EntityBase.Proofs.Machine.Stepwise.Chains
import EntityBase.Proofs.Machine.Stepwise.Moves

/-!
# Invariants — what steps keep

The depth of an arena is the number of lists that wait, and a list that would go
beyond the ceiling is not opened: what one step keeps, a run of steps keeps. Only a
list and a pass that are refused make the failure of a ceiling come up, for all other
steps are mild. A failure that came up stays until the end.
-/

namespace EntityBase.Machine

variable {terms : Terms} {s t : Stage} {w : List Pending}

/-! ## Depth -/

theorem depth_unwind {p : Pending} (h : p.isLevel = false) (a : Arena) :
    (p.unwind a).depth = a.depth := by
  cases p with
  | level => cases h
  | child purpose => cases purpose <;> rfl
  | _ => rfl

namespace Stage

theorem lists_cons (focus : Focus) {p : Pending} (h : p.isLevel = false) (a : Arena) :
    (⟨focus, p :: w, a⟩ : Stage).lists = w.countP Pending.isLevel :=
  List.countP_cons_of_neg (by rw [h]; exact Bool.false_ne_true)

theorem lists_level (focus : Focus) (a : Arena) :
    (⟨focus, .level :: w, a⟩ : Stage).lists = w.countP Pending.isLevel + 1 :=
  List.countP_cons_of_pos rfl

/-- Something mild that was begun opens no list. -/
theorem depth_on {depth : Nat} {begun : Except Failure Course × Arena}
    (h : MildOutcome Course.Mild depth begun) :
    (on w begun).arena.depth = depth ∧ (on w begun).lists = w.countP Pending.isLevel := by
  cases h with
  | error hdepth _ => exact ⟨hdepth, rfl⟩
  | @ok c a hdepth hc =>
    refine ⟨hdepth, ?_⟩
    have hnone : c.waiting.countP Pending.isLevel = 0 :=
      List.countP_eq_zero.mpr fun p hp => by rw [(hc.waiting p hp).1]; exact Bool.false_ne_true
    unfold lists on
    rw [List.countP_append, hnone, Nat.zero_add]

/-- The lists that are run are counted by the depth. -/
theorem Moves.depth_eq (h : Moves terms s t) {depth : Nat}
    (hs : s.arena.depth = depth + s.lists) : t.arena.depth = depth + t.lists := by
  cases h with
  | rests | tooDeep | runsAway => exact hs
  | opens items w a hlt =>
    have hs : a.depth = depth + w.countP Pending.isLevel := hs
    rw [lists_cons _ rfl, List.countP_cons_of_pos rfl]
    exact congrArg (· + 1) hs
  | closes flow w a =>
    rw [lists_level] at hs
    exact congrArg (· - 1) hs
  | pass body passes w a => rwa [lists_cons _ rfl]
  | again body passes w a => rwa [lists_cons _ rfl] at hs
  | done flow body passes w hdepth =>
    rw [lists_cons _ rfl] at hs
    exact hdepth.trans hs
  | fails e p w a =>
    cases hp : p.isLevel with
    | false =>
      rw [lists_cons _ hp] at hs
      exact (depth_unwind hp a).trans hs
    | true =>
      cases p <;> cases hp
      rw [lists_level] at hs
      exact congrArg (· - 1) hs
  | starts c w a hmild =>
    obtain ⟨hdepth, hlists⟩ := depth_on (w := w) (hmild terms a)
    rw [hdepth, hlists]
    exact hs
  | resumes flow p w a hlevel _ hmild =>
    obtain ⟨hdepth, hlists⟩ := depth_on (w := w) (hmild terms a)
    rw [lists_cons _ hlevel] at hs
    rw [hdepth, hlists]
    exact hs

/-- No list is opened beyond the ceiling. -/
theorem Moves.lists_le (h : Moves terms s t) :
    t.lists ≤ s.lists ∨ t.arena.depth ≤ terms.limits.maxDepth := by
  cases h with
  | rests | tooDeep | runsAway => exact .inl (Nat.le_refl _)
  | opens items w a hlt => exact .inr hlt
  | closes | again | done | fails => exact .inl (List.sublist_cons_self _ _).countP_le
  | pass body passes w a =>
    exact .inl (Nat.le_of_eq (lists_cons (p := .loop body (passes + 1)) _ rfl a))
  | starts c w a hmild => exact .inl (Nat.le_of_eq (depth_on (hmild terms a)).2)
  | resumes flow p w a hlevel _ hmild =>
    refine .inl ?_
    rw [lists_cons _ hlevel]
    exact Nat.le_of_eq (depth_on (hmild terms a)).2

/-- **The depth on the way**: it counts the lists that are run, and these are no more
than the ceiling allows. -/
theorem depth_after (s : Stage) (depth : Nat) (hs : s.arena.depth = depth + s.lists) (k : Nat) :
    (s.after terms k).arena.depth = depth + (s.after terms k).lists ∧
      (s.after terms k).arena.depth ≤ max s.arena.depth terms.limits.maxDepth := by
  induction k with
  | zero => exact ⟨hs, Nat.le_max_left _ _⟩
  | succ k ih =>
    obtain ⟨hdepth, hle⟩ := ih
    rw [after_succ]
    have hmove := moves_step terms (s.after terms k)
    have hdepth' := hmove.depth_eq hdepth
    refine ⟨hdepth', ?_⟩
    rcases hmove.lists_le with hlists | hceiling
    · omega
    · exact Nat.le_trans hceiling (Nat.le_max_right _ _)

/-! ## Failures -/

/-- A failure stays until the end. -/
theorem Moves.failed (h : Moves terms s t) {e : Failure} (hs : s.focus = .ended (.error e)) :
    t.focus = .ended (.error e) := by
  cases h <;> first | exact hs | cases hs

theorem failed_after {e : Failure} (hs : s.focus = .ended (.error e)) (k : Nat) :
    (s.after terms k).focus = .ended (.error e) := by
  induction k with
  | zero => exact hs
  | succ k ih =>
    rw [after_succ]
    exact (moves_step terms _).failed ih

/-- A failure at some stage came up at one before. -/
theorem exists_raises (hs : ∀ e, s.focus ≠ .ended (.error e)) {e : Failure} {n : Nat}
    (h : (s.after terms n).focus = .ended (.error e)) : ∃ k, (s.after terms k).Raises terms e := by
  induction n with
  | zero => exact absurd h (hs e)
  | succ n ih =>
    rw [after_succ] at h
    by_cases hfailed : ∃ e', (s.after terms n).focus = .ended (.error e')
    · obtain ⟨e', he'⟩ := hfailed
      have hsame := ((moves_step terms _).failed he').symm.trans h
      obtain rfl := Except.error.inj (Focus.ended.inj hsame)
      exact ih he'
    · exact ⟨n, fun e' he' => hfailed ⟨e', he'⟩, h⟩

/-- **What comes to an end fails exactly with what came up on the way.** -/
theorem ended_error_iff (hs : ∀ e, s.focus ≠ .ended (.error e)) {r : Except Failure Flow} {a : Arena}
    {n : Nat} (hend : ∀ k, n ≤ k → s.after terms k = ⟨.ended r, [], a⟩) (e : Failure) :
    r = .error e ↔ ∃ k, (s.after terms k).Raises terms e := by
  constructor
  · rintro rfl
    exact exists_raises hs (congrArg Stage.focus (hend n (Nat.le_refl n)))
  · rintro ⟨k, -, hk⟩
    rw [← after_succ] at hk
    have hlast : (s.after terms (k + 1 + n)).focus = .ended (.error e) := by
      rw [after_add]
      exact failed_after hk n
    rw [hend _ (Nat.le_add_left _ _)] at hlast
    exact Focus.ended.inj hlast

theorem focus_on_mild {depth : Nat} {begun : Except Failure Course × Arena} {e : Failure}
    (h : MildOutcome Course.Mild depth begun) (he : (on w begun).focus = .ended (.error e)) :
    e.ofCeiling = false := by
  cases h with
  | ok _ hc => exact absurd he (hc.fine e)
  | error _ hmild =>
    obtain rfl := Except.error.inj (Focus.ended.inj he)
    exact hmild

/-- **Where the failure of a ceiling comes up.** -/
theorem Moves.ceiling (h : Moves terms s t) {e : Failure} (hs : ∀ e', s.focus ≠ .ended (.error e'))
    (ht : t.focus = .ended (.error e)) (he : e.ofCeiling = true) :
    (∃ items, s.focus = .call (.list items) ∧ terms.limits.maxDepth ≤ s.arena.depth ∧
      e = .depthExceeded terms.limits.maxDepth) ∨
    ∃ body passes, s.focus = .call (.pass body passes) ∧ terms.limits.loopLimit ≤ passes ∧
      e = .runawayLoop terms.limits.loopLimit := by
  cases h with
  | rests r a => exact absurd ht (hs e)
  | fails e' => exact absurd rfl (hs e')
  | opens | closes | pass | again | done => cases ht
  | tooDeep items w a hle =>
    obtain rfl := Except.error.inj (Focus.ended.inj ht)
    exact .inl ⟨items, rfl, hle, rfl⟩
  | runsAway body passes w a hle =>
    obtain rfl := Except.error.inj (Focus.ended.inj ht)
    exact .inr ⟨body, passes, rfl, hle, rfl⟩
  | starts c w a hmild =>
    rw [focus_on_mild (hmild terms a) ht] at he
    cases he
  | resumes flow p w a _ _ hmild =>
    rw [focus_on_mild (hmild terms a) ht] at he
    cases he

theorem raises_depthExceeded_iff {limit : Nat} :
    s.Raises terms (.depthExceeded limit) ↔ limit = terms.limits.maxDepth ∧
      terms.limits.maxDepth ≤ s.arena.depth ∧ ∃ items, s.focus = .call (.list items) := by
  constructor
  · rintro ⟨hs, hstep⟩
    rcases (moves_step terms s).ceiling hs hstep rfl with ⟨items, hfocus, hle, he⟩ | ⟨_, _, _, _, he⟩
    · exact ⟨Failure.depthExceeded.inj he, hle, items, hfocus⟩
    · cases he
  · rintro ⟨rfl, hle, items, hfocus⟩
    obtain ⟨focus, w, a⟩ := s
    dsimp only at hfocus
    subst hfocus
    exact ⟨nofun, congrArg Stage.focus (step_list_of_le hle)⟩

theorem raises_runawayLoop_iff {limit : Nat} :
    s.Raises terms (.runawayLoop limit) ↔ limit = terms.limits.loopLimit ∧
      ∃ body passes, s.focus = .call (.pass body passes) ∧ terms.limits.loopLimit ≤ passes := by
  constructor
  · rintro ⟨hs, hstep⟩
    rcases (moves_step terms s).ceiling hs hstep rfl with
      ⟨_, _, _, he⟩ | ⟨body, passes, hfocus, hle, he⟩
    · cases he
    · exact ⟨Failure.runawayLoop.inj he, body, passes, hfocus, hle⟩
  · rintro ⟨rfl, body, passes, hfocus, hle⟩
    obtain ⟨focus, w, a⟩ := s
    dsimp only at hfocus
    subst hfocus
    exact ⟨nofun, congrArg Stage.focus (step_pass_of_le hle)⟩

end Stage

end EntityBase.Machine
