import EntityBase.Proofs.Machine.Stepwise.Loops

/-!
# Ceilings — every program ends and respects its ceilings

A program calls words, the words run lists, and lists are built and words defined on
the way, so nothing about its text says that it ends. What does is that no evaluation
goes on for long without a list being opened: the items of a list, the passes of a loop
and the items that the host word takes are used up, and lists are opened inside one
another only as far as the ceiling allows.

The stages of a program show this. They come to the outcome of the evaluator, the
depth counts the lists that are being run on the way, and the failures of the two
ceilings come up at those stages at which a list, or a pass of a loop, is one too many.
-/

namespace EntityBase.Machine

open Stage

/-- **Every program ends and respects its ceilings.** Under any terms, on any arena and
whatever words are defined there, the stages of a program are such that:
1. after finitely many steps nothing is left to do, and the outcome is that of the
   evaluator;
2. this is a failure exactly if that failure comes up at some stage;
3. the depth counts the lists that are being run, and it never goes beyond the ceiling
   if it did not do so at the beginning;
4. the failure of that ceiling comes up exactly where a list is to be run at the
   ceiling;
5. no loop begins more passes than its ceiling;
6. the failure of that ceiling comes up exactly where a pass is due after as many;
7. a pass is due after a row of passes from the place where the loop began, each of
   which ended without an escape and left something true on top;
8. where a loop begins and such a row can be made from there, up to the ceiling, it is
   made, and the next pass is due. -/
theorem programs_end (terms : Terms) (a : Arena) (program : List Lexeme) :
    let outcome := Arena.runProgram program terms a
    let run := (Stage.ofProgram program a).after terms
    (∃ n, ∀ k, n ≤ k → run k = ⟨.ended (outcome.1.map fun _ => .next), [], outcome.2⟩) ∧
    (∀ e, outcome.1 = .error e ↔ ∃ k, (run k).Raises terms e) ∧
    (∀ k, (run k).arena.depth = a.depth + (run k).lists ∧
      (run k).arena.depth ≤ max a.depth terms.limits.maxDepth) ∧
    (∀ k limit, (run k).Raises terms (.depthExceeded limit) ↔
      limit = terms.limits.maxDepth ∧ terms.limits.maxDepth ≤ (run k).arena.depth ∧
        ∃ items, (run k).focus = .call (.list items)) ∧
    (∀ k body passes, .loop body passes ∈ (run k).waiting → passes ≤ terms.limits.loopLimit) ∧
    (∀ k limit, (run k).Raises terms (.runawayLoop limit) ↔
      limit = terms.limits.loopLimit ∧ ∃ body, (run k).focus = .call (.pass body limit)) ∧
    (∀ k body passes, (run k).focus = .call (.pass body passes) →
      ∃ j b, j ≤ k ∧ run j = ⟨.call (.pass body 0), (run k).waiting, b⟩ ∧
        Arena.Passes terms body passes b (run k).arena) ∧
    ∀ j body passes b, (run j).focus = .call (.pass body 0) → passes ≤ terms.limits.loopLimit →
      Arena.Passes terms body passes (run j).arena b →
      ∃ k, j ≤ k ∧ run k = ⟨.call (.pass body passes), (run j).waiting, b⟩ := by
  intro outcome run
  have hloops : ∀ p ∈ (ofProgram program a).waiting, p.isLoop = false := by
    intro p hp
    simp only [ofProgram, List.mem_cons, List.not_mem_nil, or_false] at hp
    rcases hp with rfl | rfl
    · rfl
    · rfl
  have hfine (e : Failure) : (ofProgram program a).focus ≠ .ended (.error e) := nofun
  obtain ⟨n, hn, -⟩ := through_ofProgram terms program a
  have hend (k : Nat) (hk : n ≤ k) :
      run k = ⟨.ended (outcome.1.map fun _ => .next), [], outcome.2⟩ := by
    obtain ⟨i, rfl⟩ := Nat.exists_eq_add_of_le hk
    refine (after_add _ n i).trans ?_
    rw [hn]
    exact after_ended _ _ i
  have hdue (k : Nat) (body : List Value) (passes : Nat)
      (hfocus : (run k).focus = .call (.pass body passes)) :
      passes ≤ terms.limits.loopLimit ∧ ∃ j b, j ≤ k ∧
        run j = ⟨.call (.pass body 0), (run k).waiting, b⟩ ∧
        Arena.Passes terms body passes b (run k).arena := by
    have hstage : run k = ⟨.call (.pass body passes), (run k).waiting, (run k).arena⟩ := by
      rw [← hfocus]
    exact passes_of_pass hloops nofun hstage
  refine ⟨⟨n, hend⟩, fun e => ?_, depth_after _ a.depth rfl, fun k limit => raises_depthExceeded_iff,
    fun k body passes => passes_le hloops, fun k limit => ?_,
    fun k body passes hfocus => (hdue k body passes hfocus).2,
    fun j body passes b hfocus hpasses hrow => ?_⟩
  · have hresult : outcome.1 = .error e ↔ outcome.1.map (fun _ => Flow.next) = .error e := by
      cases outcome.1 with
      | ok _ => exact iff_of_false nofun nofun
      | error _ => exact ⟨fun h => congrArg _ (Except.error.inj h), fun h => congrArg _ (Except.error.inj h)⟩
    exact hresult.trans (ended_error_iff hfine hend e)
  · refine raises_runawayLoop_iff.trans (and_congr_right fun hlimit => ?_)
    constructor
    · rintro ⟨body, passes, hfocus, hle⟩
      obtain rfl : passes = limit :=
        (Nat.le_antisymm (hdue k body passes hfocus).1 hle).trans hlimit.symm
      exact ⟨body, hfocus⟩
    · rintro ⟨body, hfocus⟩
      exact ⟨body, limit, hfocus, Nat.le_of_eq hlimit.symm⟩
  · obtain ⟨i, hi, -⟩ := through_passes hrow hpasses (run j).waiting
    refine ⟨j + i, Nat.le_add_right j i, ?_⟩
    have hstage : run j = ⟨.call (.pass body 0), (run j).waiting, (run j).arena⟩ := by
      rw [← hfocus]
    rw [← hstage] at hi
    exact (after_add _ j i).trans hi

end EntityBase.Machine
