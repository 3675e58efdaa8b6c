import EntityBase.Machine.Evaluation

/-!
# Dispatch — which overload a name runs

The overloads of a name are tried in order, those of the frames first. Once
one of them is known to take what is on the stack, running the name is
running that overload (`runName_native`). A frame without words of its own
leaves the dictionary alone to decide.
-/

namespace EntityBase.Machine

variable {runList : List Value → Run Flow} {name : String} {env : Env} {s : State}

/-- The first overload that takes the items is the one. -/
theorem resolve_of_find? {w : Word}
    (h : (overloads name (s.frame :: env.outer)).find? (fun w => w.accepts s.frame.items)
      = some w) :
    Run.resolve name env s = (.ok (some w), s) := by
  have hnonempty : (overloads name (s.frame :: env.outer)).isEmpty = false := by
    cases hwords : overloads name (s.frame :: env.outer) with
    | nil =>
      rw [hwords] at h
      cases h
    | cons => rfl
  change ((if (overloads name (s.frame :: env.outer)).isEmpty then pure none else _ :
    Run (Option Word)) env s) = _
  rw [hnonempty, h]
  rfl

/-- **Running a name** whose first fitting overload is native, other than the
host word that evaluates. -/
theorem runName_native {pattern : List Kind} {n : Native} (hn : n ≠ .host .eval)
    (h : (overloads name (s.frame :: env.outer)).find? (fun w => w.accepts s.frame.items)
      = some ⟨pattern, .native n⟩) :
    runName runList name env s = runNative runList n { env with word := name } s := by
  have hby : ∀ fuel, runNameBy runList fuel name env s
      = runNative runList n { env with word := name } s := by
    intro fuel
    cases fuel with
    | zero =>
      change Run.bind (Run.resolve name) _ env s = _
      unfold Run.bind
      rw [resolve_of_find? h]
      rfl
    | succ fuel =>
      change Run.bind (Run.resolve name) _ env s = _
      unfold Run.bind
      rw [resolve_of_find? h]
      cases n with
      | host w => cases w <;> first | rfl | exact absurd rfl hn
      | _ => rfl
  exact hby s.frame.items.length

/-- A name that no word of the frames has is looked up in the dictionary alone. -/
theorem overloads_eq_builtin {frames : List Frame} (h : ∀ f ∈ frames, f.words.named name = []) :
    overloads name frames = Dictionary.builtin name := by
  have hnone : (frames.flatMap fun f => f.words.named name) = [] := List.flatMap_eq_nil_iff.2 h
  rw [overloads, hnone, List.nil_append]

theorem overloads_of_unnamed (houter : env.outer = []) (hname : s.frame.words.named name = []) :
    overloads name (s.frame :: env.outer) = Dictionary.builtin name := by
  rw [houter]
  exact overloads_eq_builtin (by simpa using hname)

end EntityBase.Machine
