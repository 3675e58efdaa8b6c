import EntityBase.Proofs.Binary64.OfInt
import EntityBase.Value.Collection

/-!
# Integers among values

Numbers are compared as doubles, two integers too. So equality and order see of an
integer of 64 bits what is left of it in a double, and the set operations take
integers for one that have the same left. On some integers that may be an order that
is known otherwise, such as their own (`Compares`).
-/

namespace EntityBase.Value

open Binary64

variable {a b : Int} {x y : Float}

/-! ## Doubles of integers -/

theorem lt_iff_of_stands (hx : Stands x a) (hy : Stands y b) : x < y ↔ a < b := by
  have hmodel : x < y ↔ (x.toModel.compare y.toModel == some .lt) = true := by
    change decide (x.toModel < y.toModel) = true ↔ _
    rw [decide_eq_true_iff]
    rfl
  rw [hmodel, hx.compare hy, beq_iff_eq, Option.some_inj, compare_lt_iff_lt]

theorem beq_of_stands (hx : Stands x a) (hy : Stands y b) : (x == y) = (compare a b).isEq := by
  have hmodel : (x == y) = (x.toModel.compare y.toModel == some .eq) := rfl
  rw [hmodel, hx.compare hy]
  cases compare a b <;> rfl

theorem floatOrder?_of_stands (hx : Stands x a) (hy : Stands y b) :
    floatOrder? x y = some (compare a b) := by
  unfold floatOrder?
  rw [beq_of_stands hx hy]
  simp only [lt_iff_of_stands hx hy, lt_iff_of_stands hy hx]
  rcases lt_trichotomy a b with h | rfl | h
  · rw [if_pos h, compare_lt_iff_lt.2 h]
  · rw [if_neg (lt_irrefl _), if_neg (lt_irrefl _), compare_eq_iff_eq.2 rfl]
    rfl
  · rw [if_neg (by omega), if_pos h, compare_gt_iff_gt.2 h]

/-! ## Equality and order -/

/-- The order of integers by what is left of them in doubles. -/
def compareNearest (a b : Int) : Ordering := compare (nearest a) (nearest b)

/-- An order of some integers of 64 bits that is the one by their doubles. -/
structure Compares (cmp : Int → Int → Ordering) (S : Set Int) : Prop where
  fits : ∀ a ∈ S, fitsInt64 a
  eq_nearest : ∀ a ∈ S, ∀ b ∈ S, cmp a b = compareNearest a b

variable {cmp : Int → Int → Ordering} {S : Set Int} {ns ms : List Int}

section Compares

variable (h : Compares cmp S)

include h

theorem floatOrder?_ofInt (ha : a ∈ S) (hb : b ∈ S) :
    floatOrder? (Float.ofInt a) (Float.ofInt b) = some (cmp a b) := by
  rw [h.eq_nearest a ha b hb]
  exact floatOrder?_of_stands (stands_ofInt (h.fits a ha)) (stands_ofInt (h.fits b hb))

/-- **Integers are the same** if their doubles are. -/
theorem same_int (ha : a ∈ S) (hb : b ∈ S) : (int a).same (int b) = (cmp a b).isEq := by
  rw [h.eq_nearest a ha b hb]
  change (scalar (.int a)).same (scalar (.int b)) = _
  rw [same]
  exact beq_of_stands (stands_ofInt (h.fits a ha)) (stands_ofInt (h.fits b hb))

theorem equals_int (ha : a ∈ S) (hb : b ∈ S) : (int a).equals (int b) = (cmp a b).isEq :=
  same_int h ha hb

/-- **Integers are ordered** as their doubles are. -/
theorem order?_int (ha : a ∈ S) (hb : b ∈ S) : (int a).order? (int b) = some (cmp a b) :=
  floatOrder?_ofInt h ha hb

end Compares

/-! ## Lists of integers -/

theorem any_map_eq {α β : Type} {f : α → β} {p : β → Bool} {q : α → Bool} {l : List α}
    (h : ∀ x ∈ l, p (f x) = q x) : (l.map f).any p = l.any q := by
  rw [List.any_map, Bool.eq_iff_iff, List.any_eq_true, List.any_eq_true]
  exact exists_congr fun x => and_congr_right fun hx => by rw [Function.comp, h x hx]

theorem isIn_ints (h : Compares cmp S) (ha : a ∈ S) (hns : ∀ n ∈ ns, n ∈ S) :
    (int a).isIn (ns.map int) = ns.any fun n => (cmp n a).isEq :=
  any_map_eq fun n hn => same_int h (hns n hn) ha

/-- The integers that are equal to none before them. -/
def firstInts (cmp : Int → Int → Ordering) (ns : List Int) : List Int :=
  ns.eraseDupsBy fun n m => (cmp m n).isEq

/-- **Of equal integers, the first one stays.** -/
theorem firstOnes_ints (h : Compares cmp S) (hns : ∀ n ∈ ns, n ∈ S) :
    firstOnes [] (ns.map int) = (firstInts cmp ns).map int := by
  -- of the list that goes over the rest, what was seen before is the reversed start
  have hloop : ∀ ns seen : List Int, (∀ n ∈ ns, n ∈ S) → (∀ n ∈ seen, n ∈ S) →
      (List.eraseDupsBy.loop (fun n m => (cmp m n).isEq) ns seen).map int
        = (seen.map int).reverse ++ firstOnes (seen.map int) (ns.map int) := by
    intro ns
    induction ns with
    | nil =>
      intro seen _ _
      simp [List.eraseDupsBy.loop, firstOnes]
    | cons n ns ih =>
      intro seen hns hseen
      obtain ⟨hn, hns⟩ := List.forall_mem_cons.1 hns
      rw [List.eraseDupsBy.loop, List.map_cons, firstOnes, isIn_ints h hn hseen]
      cases seen.any fun m => (cmp m n).isEq with
      | true => exact ih seen hns hseen
      | false =>
        have hrest := ih (n :: seen) hns (List.forall_mem_cons.2 ⟨hn, hseen⟩)
        rw [List.map_cons, List.reverse_cons, List.append_assoc] at hrest
        exact hrest
  exact (hloop ns [] hns (by simp)).symm

end EntityBase.Value

namespace EntityBase.SetOp

open Value

variable {cmp : Int → Int → Ordering} {S : Set Int} {ns ms : List Int}

/-- Set algebra of integers under an order of them. -/
def onIntegers (cmp : Int → Int → Ordering) (op : SetOp) (ns ms : List Int) : List Int :=
  firstInts cmp <| match op with
    | .union => ns ++ ms
    | .intersect => ns.filter fun n => ms.any fun m => (cmp m n).isEq
    | .diff => ns.filter fun n => !ms.any fun m => (cmp m n).isEq

/-- **The set operations merge integers with the same double**, and only those. -/
theorem onLists_ints (op : SetOp) (h : Compares cmp S) (hns : ∀ n ∈ ns, n ∈ S)
    (hms : ∀ m ∈ ms, m ∈ S) :
    op.onLists (ns.map .int) (ms.map .int) = (op.onIntegers cmp ns ms).map .int := by
  have hfilter (keep : Bool → Bool) :
      (ns.map int).filter (fun v => keep (v.isIn (ms.map int)))
        = (ns.filter fun n => keep (ms.any fun m => (cmp m n).isEq)).map int := by
    rw [List.filter_map]
    congr 1
    refine List.filter_congr fun n hn => ?_
    rw [Function.comp, isIn_ints h (hns n hn) hms]
  have hsub (keep : Int → Bool) : ∀ n ∈ ns.filter keep, n ∈ S :=
    fun n hn => hns n (List.mem_filter.1 hn).1
  cases op with
  | union =>
    rw [onLists, ← List.map_append]
    exact firstOnes_ints h (List.forall_mem_append.2 ⟨hns, hms⟩)
  | intersect => exact (congrArg _ (hfilter id)).trans (firstOnes_ints h (hsub _))
  | diff => exact (congrArg _ (hfilter (!·))).trans (firstOnes_ints h (hsub _))

end EntityBase.SetOp
