import EntityBase.Proofs.Selection.Filter
import EntityBase.Proofs.Selection.Sorting

/-!
# Stages — shape, filter, order and page

Which entities are found is a question to one candidate after another
(`Selection.narrowed_eq`), so a filter may be applied ahead of the shape and of another
filter: finding in two stages is finding at once (`Selection.narrowed_narrowed`). Order
and page come after that. They only rearrange and cut what was found, and pages that
follow one another make up the whole (`Selection.flatMap_pages`).
-/

namespace EntityBase.Selection

variable {s : Store} {sel : Selection} {candidates : Option (List EntityId)}
  {filter : Option (Filter Value)} {mask : Option Bitfield} {ids : List EntityId} {e : EntityId}

/-! ## Finding -/

/-- Whether an entity is stored, meets a mask and passes a filter, as far as these are
given. -/
def finds (s : Store) (filter : Option (Filter Value)) (mask : Option Bitfield) (e : EntityId) :
    Bool :=
  (s.shape? e).any (fun shape => mask.all fun m => m.matchesShape shape) &&
    filter.all fun f => f.test s e

/-- **Each candidate is found or not for itself.** -/
theorem narrowed_eq (s : Store) (candidates : Option (List EntityId))
    (filter : Option (Filter Value)) (mask : Option Bitfield) :
    narrowed s candidates filter mask
      = (candidates.getD s.entityIds).filter (finds s filter mask) := by
  have hshaped : ∀ ids : List EntityId, shaped s mask ids = ids.filter (finds s none mask) := by
    intro ids
    refine List.filter_congr fun e _ => ?_
    unfold finds
    cases mask <;> cases s.shape? e <;> simp
  unfold narrowed
  cases filter with
  | none => exact hshaped _
  | some f =>
    dsimp only
    rw [Filter.apply_eq_filter, hshaped, List.filter_filter]
    refine List.filter_congr fun e _ => ?_
    simp [finds, Bool.and_comm]

/-- What is found is stored. -/
theorem stored_of_mem_narrowed (h : e ∈ narrowed s candidates filter mask) :
    (s.shape? e).isSome = true := by
  rw [narrowed_eq] at h
  have hfinds := (List.mem_filter.1 h).2
  unfold finds at hfinds
  cases hshape : s.shape? e with
  | none =>
    rw [hshape] at hfinds
    cases hfinds
  | some shape => rfl

/-- **A filter that is applied first may be applied together with what follows.** -/
theorem narrowed_narrowed (s : Store) (candidates : Option (List EntityId)) (f : Filter Value)
    (g : Option (Filter Value)) (mask : Option Bitfield) :
    narrowed s (some (narrowed s candidates (some f) none)) g mask
      = narrowed s candidates (some (g.elim f f.and)) mask := by
  simp only [narrowed_eq, Option.getD_some, List.filter_filter]
  refine List.filter_congr fun e _ => ?_
  cases hshape : s.shape? e with
  | none => simp [finds, hshape]
  | some shape =>
    -- one conjunction of shape and filters, in two orders
    cases g with
    | none => simp [finds, hshape, Bool.and_comm]
    | some g => simp [finds, hshape, Filter.test, Bool.and_comm, Bool.and_assoc]

/-! ## Ordering -/

/-- What was found, in order. -/
def ordered (sel : Selection) (s : Store) (ids : List EntityId) : List EntityId :=
  match sel.order with
  | some o => o.sort s ids
  | none => ids

theorem ordered_eq_sort {o : OrderBy} (horder : sel.order = some o) :
    sel.ordered s ids = o.sort s ids := by
  rw [ordered, horder]

theorem perm_ordered (sel : Selection) (s : Store) (ids : List EntityId) :
    (sel.ordered s ids).Perm ids := by
  unfold ordered
  split
  · exact OrderBy.perm_sort _ s ids
  · exact List.Perm.refl _

/-! ## Paging -/

theorem page_eq_take {n : Nat} (hlimit : sel.limit = some n) :
    sel.page s ids = ((sel.ordered s ids).drop sel.offset).take n := by
  unfold page
  rw [hlimit]
  rfl

theorem page_eq_drop (hlimit : sel.limit = none) :
    sel.page s ids = (sel.ordered s ids).drop sel.offset := by
  unfold page
  rw [hlimit]
  rfl

/-- Nothing is on a page that was not found. -/
theorem mem_of_mem_page (h : e ∈ sel.page s ids) : e ∈ ids := by
  have hordered : e ∈ sel.ordered s ids := by
    cases hlimit : sel.limit with
    | none =>
      rw [page_eq_drop hlimit] at h
      exact List.mem_of_mem_drop h
    | some n =>
      rw [page_eq_take hlimit] at h
      exact List.mem_of_mem_drop (List.mem_of_mem_take h)
  exact (perm_ordered sel s ids).mem_iff.1 hordered

section Pages

variable {α : Type} (l : List α)

/-- Two pages that follow one another are one. -/
theorem page_append_page (offset n m : Nat) :
    (l.drop offset).take n ++ (l.drop (offset + n)).take m = (l.drop offset).take (n + m) := by
  rw [List.take_add, List.drop_drop]

/-- **Pages make up the whole**, as far as they reach. -/
theorem flatMap_pages (n k : Nat) :
    (List.range k).flatMap (fun i => (l.drop (i * n)).take n) = l.take (k * n) := by
  induction k with
  | zero => simp
  | succ k ih =>
    rw [List.range_succ, List.flatMap_append, ih, List.flatMap_singleton, Nat.succ_mul,
      List.take_add]

end Pages

end EntityBase.Selection
