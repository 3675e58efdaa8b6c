import EntityBase.Proofs.Selection.Filter

/-!
# Filters as predicates

A filter is evaluated in stages: what passes the left side of an `and` is handed to
the right side, and an `or` asks both sides of all candidates and joins the answers in
a set. What comes of it is the filter as a predicate on entities (`Filter.Selects`),
asked of one candidate after the other. This holds of any store, also of one whose
tables do not agree, since a leaf is taken as it reads the store: by the shape of the
entity and by its components.

So two filters are interchangeable if they are the same predicate (`same_iff`), and
`and` and `or` obey the laws of the connectives.
-/

namespace EntityBase.Filter

variable {s : Store} {f g h : Filter Value} {e : EntityId}

/-- The filter as a predicate on entities. A leaf asks that the entity is stored with
a shape that the mask of its attribute matches, and that by some definition of the
mask there is a component with a value at the pointer that passes the comparison. -/
def Selects (s : Store) : Filter Value → EntityId → Prop
  | .and l r, e => l.Selects s e ∧ r.Selects s e
  | .or l r, e => l.Selects s e ∨ r.Selects s e
  | .compare op a operand, e => ∃ shape, s.shape? e = some shape ∧
      a.mask.matchesShape shape = true ∧ ∃ d c field, a.mask.contains d = true ∧
      s.component? ⟨e, d⟩ = some c ∧ c.pointer? a.pointer = some field ∧
      compareField field op operand = true

theorem test_iff_selects : f.test s e = true ↔ f.Selects s e := by
  induction f with
  | and l r ihl ihr => rw [test, Bool.and_eq_true, ihl, ihr, Selects]
  | or l r ihl ihr => rw [test, Bool.or_eq_true, ihl, ihr, Selects]
  | compare op a operand => exact passes_iff_shape

instance : DecidablePred (f.Selects s) := fun _ => decidable_of_iff _ test_iff_selects

theorem apply_eq_selected (s : Store) (f : Filter Value) (ids : List EntityId) :
    f.apply s ids = ids.filter fun e => f.Selects s e := by
  rw [apply_eq_filter]
  refine List.filter_congr fun e _ => ?_
  rw [Bool.eq_iff_iff, test_iff_selects, decide_eq_true_iff]

/-- Two filters that keep the same of any candidates. -/
def Same (f g : Filter Value) : Prop := ∀ s ids, f.apply s ids = g.apply s ids

/-- **Filters are the same if they are the same predicate**, and only then. -/
theorem same_iff : f.Same g ↔ ∀ s e, f.Selects s e ↔ g.Selects s e := by
  simp only [Same, apply_eq_selected]
  constructor
  · intro h s e
    -- the one candidate shows which of the two keeps it
    have hone : e ∈ [e].filter (fun e => f.Selects s e) ↔
        e ∈ [e].filter (fun e => g.Selects s e) := by
      rw [h s [e]]
    simpa using hone
  · intro h s ids
    exact List.filter_congr fun e _ => decide_eq_decide.2 (h s e)

/-- **Filters are pointwise.** In any store and of any candidates, in whatever order
and however often they stand there and whether they are stored or not, a filter keeps
those that it selects, in their order and as often as they stand there; so of the
candidates of two lists it keeps those of the one and then those of the other. And
`and` and `or` are commutative, associative and idempotent, and each distributes over
the other. -/
theorem filters_are_pointwise :
    (∀ s (f : Filter Value) ids, f.apply s ids = ids.filter fun e => f.Selects s e) ∧
    (∀ s (f : Filter Value) ids ids', f.apply s (ids ++ ids') = f.apply s ids ++ f.apply s ids') ∧
    (∀ f g, Same (and f g) (and g f) ∧ Same (or f g) (or g f)) ∧
    (∀ f g h, Same (and (and f g) h) (and f (and g h)) ∧ Same (or (or f g) h) (or f (or g h))) ∧
    (∀ f, Same (and f f) f ∧ Same (or f f) f) ∧
    (∀ f g h, Same (and f (or g h)) (or (and f g) (and f h)) ∧
      Same (or f (and g h)) (and (or f g) (or f h))) := by
  refine ⟨apply_eq_selected, fun s f ids ids' => ?_, fun f g => ⟨?_, ?_⟩, fun f g h => ⟨?_, ?_⟩,
    fun f => ⟨?_, ?_⟩, fun f g h => ⟨?_, ?_⟩⟩
  · simp only [apply_eq_selected, List.filter_append]
  · exact same_iff.2 fun s e => and_comm
  · exact same_iff.2 fun s e => or_comm
  · exact same_iff.2 fun s e => and_assoc
  · exact same_iff.2 fun s e => or_assoc
  · exact same_iff.2 fun s e => and_self_iff
  · exact same_iff.2 fun s e => or_self_iff
  · exact same_iff.2 fun s e => and_or_left
  · exact same_iff.2 fun s e => or_and_left

end EntityBase.Filter
