import EntityBase.Proofs.Table
import EntityBase.Proofs.Value.Equality
import EntityBase.Value.Collection

/-!
# Set algebra of collections

The set operations on lists build their result item by item and drop what has been seen.
What that comes to is told by membership up to equality (`isIn`), which equal values share
(`isIn_congr`). So walks that have seen equal values go on alike, a walk over two lists is one
over the first and then one over the second (`firstOnes_append`), and values may be left out
before the walk or after it (`firstOnes_filter`). On maps the operations are told by
look-ups.
-/

namespace EntityBase

namespace Value

variable {v w : Value} {items more seen : List Value} {p : Value → Bool}

/-! ## Membership up to equality -/

theorem isIn_iff : v.isIn items = true ↔ ∃ w ∈ items, w.same v = true := List.any_eq_true

theorem isIn_cons : v.isIn (w :: items) = (w.same v || v.isIn items) := List.any_cons

theorem isIn_append : v.isIn (items ++ more) = (v.isIn items || v.isIn more) := List.any_append

/-- **Equal values are in the same lists.** -/
theorem isIn_congr (h : v.same w = true) : v.isIn items = w.isIn items := by
  rw [Bool.eq_iff_iff, isIn_iff, isIn_iff]
  refine exists_congr fun u => and_congr_right fun _ => ⟨fun hv => ?_, fun hw => ?_⟩
  · exact coherent_same.trans hv h
  · exact coherent_same.trans hw (coherent_same.symm h)

/-- What is asked of values in such a way that equal ones answer alike. -/
def Respects (p : Value → Bool) : Prop := ∀ ⦃v w : Value⦄, v.same w = true → p v = p w

theorem respects_isIn (items : List Value) : Respects (·.isIn items) := fun _ _ => isIn_congr

theorem Respects.not (hp : Respects p) : Respects (! p ·) := fun _ _ h => congrArg _ (hp h)

theorem isIn_filter (hp : Respects p) : v.isIn (items.filter p) = (v.isIn items && p v) := by
  rw [Bool.eq_iff_iff, Bool.and_eq_true, isIn_iff, isIn_iff]
  constructor
  · rintro ⟨w, hw, hwv⟩
    obtain ⟨hw, hpw⟩ := List.mem_filter.1 hw
    exact ⟨⟨w, hw, hwv⟩, hp hwv ▸ hpw⟩
  · rintro ⟨⟨w, hw, hwv⟩, hpv⟩
    exact ⟨w, List.mem_filter.2 ⟨hw, (hp hwv).trans hpv⟩, hwv⟩

/-! ## The first of equal items -/

theorem firstOnes_cons_of_isIn (h : v.isIn seen = true) :
    firstOnes seen (v :: items) = firstOnes seen items := if_pos h

theorem firstOnes_cons_of_new (h : v.isIn seen = false) :
    firstOnes seen (v :: items) = v :: firstOnes (v :: seen) items :=
  if_neg (Bool.eq_false_iff.1 h)

/-- What is kept is none of what was seen. -/
theorem isIn_seen_of_mem (h : v ∈ firstOnes seen items) : v.isIn seen = false := by
  induction items generalizing seen with
  | nil => cases h
  | cons u rest ih =>
    cases hu : u.isIn seen with
    | true => exact ih (firstOnes_cons_of_isIn hu ▸ h)
    | false =>
      rw [firstOnes_cons_of_new hu] at h
      rcases List.mem_cons.1 h with rfl | hrest
      · exact hu
      · have hnew := ih hrest
        rw [isIn_cons, Bool.or_eq_false_iff] at hnew
        exact hnew.2

/-- **No two items that are kept are equal.** -/
theorem pairwise_firstOnes : (firstOnes seen items).Pairwise fun v w =>
    v.same w = false ∧ w.same v = false := by
  induction items generalizing seen with
  | nil => exact .nil
  | cons u rest ih =>
    cases hu : u.isIn seen with
    | true =>
      rw [firstOnes_cons_of_isIn hu]
      exact ih
    | false =>
      rw [firstOnes_cons_of_new hu]
      refine .cons (fun w hw => ?_) ih
      have hnew := isIn_seen_of_mem hw
      rw [isIn_cons, Bool.or_eq_false_iff] at hnew
      refine ⟨hnew.1, Bool.eq_false_iff.2 fun hwu => ?_⟩
      rw [coherent_same.symm hwu] at hnew
      cases hnew.1

/-- What was seen and what is kept are together what was seen and what there is. -/
theorem isIn_seen_or_firstOnes :
    (v.isIn seen || v.isIn (firstOnes seen items)) = (v.isIn seen || v.isIn items) := by
  induction items generalizing seen with
  | nil => rfl
  | cons u rest ih =>
    cases hu : u.isIn seen with
    | true =>
      rw [firstOnes_cons_of_isIn hu, ih, isIn_cons]
      cases huv : u.same v with
      | true => rw [← isIn_congr huv, hu, Bool.true_or, Bool.true_or]
      | false => rw [Bool.false_or]
    | false =>
      have hrest : (v.isIn (u :: seen) || v.isIn (firstOnes (u :: seen) rest))
          = (v.isIn (u :: seen) || v.isIn rest) := ih
      rw [firstOnes_cons_of_new hu]
      simp only [isIn_cons] at hrest ⊢
      rw [Bool.or_left_comm, ← Bool.or_assoc, hrest, Bool.or_left_comm (v.isIn seen),
        Bool.or_assoc]

/-- **Nothing is lost** up to equality. -/
theorem isIn_firstOnes : v.isIn (firstOnes [] items) = v.isIn items := by
  have hseen : (v.isIn [] || v.isIn (firstOnes [] items)) = (v.isIn [] || v.isIn items) :=
    isIn_seen_or_firstOnes
  exact hseen

/-- **Values may be left out before the walk or after it**, if the walks have seen the same of
those that stay. -/
theorem firstOnes_filter (hp : Respects p) {before : List Value}
    (hseen : ∀ v, p v = true → v.isIn before = v.isIn seen) :
    firstOnes before (items.filter p) = (firstOnes seen items).filter p := by
  induction items generalizing before seen with
  | nil => rfl
  | cons u rest ih =>
    cases hpu : p u with
    | false =>
      rw [List.filter_cons_of_neg (Bool.eq_false_iff.1 hpu)]
      cases hu : u.isIn seen with
      | true =>
        rw [firstOnes_cons_of_isIn hu]
        exact ih hseen
      | false =>
        rw [firstOnes_cons_of_new hu, List.filter_cons_of_neg (Bool.eq_false_iff.1 hpu)]
        refine ih fun v hpv => ?_
        have huv : u.same v = false := by
          refine Bool.eq_false_iff.2 fun huv => ?_
          rw [hp huv, hpv] at hpu
          cases hpu
        rw [isIn_cons, huv, Bool.false_or, hseen v hpv]
    | true =>
      rw [List.filter_cons_of_pos hpu]
      cases hu : u.isIn seen with
      | true =>
        rw [firstOnes_cons_of_isIn hu, firstOnes_cons_of_isIn ((hseen u hpu).trans hu)]
        exact ih hseen
      | false =>
        rw [firstOnes_cons_of_new hu, firstOnes_cons_of_new ((hseen u hpu).trans hu),
          List.filter_cons_of_pos hpu]
        exact congrArg _ (ih fun v hpv => by rw [isIn_cons, isIn_cons, hseen v hpv])

/-- Walks that have seen the same go on alike. -/
theorem firstOnes_congr {before : List Value} (h : ∀ v : Value, v.isIn before = v.isIn seen) :
    firstOnes before items = firstOnes seen items := by
  have hall : Respects fun _ => true := fun _ _ _ => rfl
  have hfilter : firstOnes before (items.filter fun _ => true)
      = (firstOnes seen items).filter fun _ => true := firstOnes_filter hall fun v _ => h v
  simpa using hfilter

/-- What was seen may be left out before. -/
theorem firstOnes_eq_of_filter :
    firstOnes seen items = firstOnes [] (items.filter fun v => !v.isIn seen) := by
  have hfilter : firstOnes [] (items.filter fun v => !v.isIn seen)
      = (firstOnes seen items).filter fun v => !v.isIn seen :=
    firstOnes_filter (respects_isIn seen).not fun v hv => (Bool.not_inj hv).symm
  refine (hfilter.trans (List.filter_eq_self.2 fun v hv => ?_)).symm
  rw [isIn_seen_of_mem hv, Bool.not_false]

/-- **The walk over two lists** is one over the first and then one over the second. -/
theorem firstOnes_append :
    firstOnes seen (items ++ more) = firstOnes seen items ++ firstOnes (items ++ seen) more := by
  induction items generalizing seen with
  | nil => rfl
  | cons u rest ih =>
    rw [List.cons_append]
    cases hu : u.isIn seen with
    | true =>
      rw [firstOnes_cons_of_isIn hu, firstOnes_cons_of_isIn hu, ih]
      refine congrArg _ (firstOnes_congr fun v => ?_)
      rw [List.cons_append, isIn_cons]
      cases huv : u.same v with
      | true =>
        have hv : v.isIn seen = true := (isIn_congr huv).symm.trans hu
        rw [isIn_append, hv, Bool.or_true, Bool.true_or]
      | false => rw [Bool.false_or]
    | false =>
      rw [firstOnes_cons_of_new hu, firstOnes_cons_of_new hu, ih, List.cons_append]
      refine congrArg _ (congrArg _ (firstOnes_congr fun v => ?_))
      rw [List.cons_append, isIn_cons, isIn_append, isIn_append, isIn_cons, Bool.or_left_comm]

theorem firstOnes_concat :
    firstOnes [] (items ++ [v]) = firstOnes [] items ++ if v.isIn items then [] else [v] := by
  rw [firstOnes_append, List.append_nil]
  cases hv : v.isIn items with
  | true => rw [firstOnes_cons_of_isIn hv]; rfl
  | false => rw [firstOnes_cons_of_new hv]; rfl

/-! ## The order of first occurrence -/

/-- Items of a list in the order in which they occur first: each is the first one that equals
it, and no other one stands before it. -/
structure FirstOccurrences (items result : List Value) : Prop where
  first {v : Value} (hv : v ∈ result) : items.find? (·.same v) = some v
  ordered : result.Pairwise fun v w => items.findIdx (·.same v) < items.findIdx (·.same w)

theorem FirstOccurrences.mem {result : List Value} (h : FirstOccurrences items result)
    (hv : v ∈ result) : v ∈ items := List.mem_of_find?_eq_some (h.first hv)

theorem FirstOccurrences.filter {result : List Value} (h : FirstOccurrences items result)
    (p : Value → Bool) : FirstOccurrences items (result.filter p) where
  first hv := h.first (List.mem_of_mem_filter hv)
  ordered := h.ordered.filter p

/-- **The items that are kept are the first ones, in order.** -/
theorem firstOccurrences_firstOnes (hself : ∀ v ∈ items, v.same v = true) :
    FirstOccurrences items (firstOnes [] items) := by
  induction items using List.reverseRecOn with
  | nil => exact ⟨fun hv => (List.not_mem_nil hv).elim, .nil⟩
  | append_singleton items u ih =>
    obtain ⟨hself, hu⟩ := List.forall_mem_append.1 hself
    have hu : u.same u = true := hu u (List.mem_singleton_self u)
    have hold := ih hself
    -- what occurs before keeps its place
    have hplace {v : Value} (hv : v ∈ firstOnes [] items) :
        (items ++ [u]).findIdx (·.same v) = items.findIdx (·.same v) ∧
          items.findIdx (·.same v) < items.length := by
      have hlt : items.findIdx (·.same v) < items.length :=
        List.findIdx_lt_length.2 ⟨v, hold.mem hv, hself v (hold.mem hv)⟩
      exact ⟨by rw [List.findIdx_append, if_pos hlt], hlt⟩
    have hfirst {v : Value} (hv : v ∈ firstOnes [] items) :
        (items ++ [u]).find? (·.same v) = some v := by
      rw [List.find?_append, hold.first hv]
      rfl
    have hordered : (firstOnes [] items).Pairwise fun v w =>
        (items ++ [u]).findIdx (·.same v) < (items ++ [u]).findIdx (·.same w) := by
      refine hold.ordered.imp_of_mem fun hv hw hlt => ?_
      rw [(hplace hv).1, (hplace hw).1]
      exact hlt
    rw [firstOnes_concat]
    cases hin : u.isIn items with
    | true =>
      rw [if_pos rfl, List.append_nil]
      exact ⟨hfirst, hordered⟩
    | false =>
      have hnone : ∀ w ∈ items, ¬ w.same u = true := fun w hw hwu =>
        Bool.eq_false_iff.1 hin (isIn_iff.2 ⟨w, hw, hwu⟩)
      refine ⟨fun {v} hv => ?_, List.pairwise_append.2 ⟨hordered, List.pairwise_singleton .., ?_⟩⟩
      · rcases List.mem_append.1 hv with hv | hv
        · exact hfirst hv
        · obtain rfl := List.mem_singleton.1 hv
          have hlast : [v].find? (·.same v) = some v := by rw [List.find?_singleton, if_pos hu]
          rw [List.find?_append, List.find?_eq_none.2 hnone, Option.none_or, hlast]
      · intro v hv w hw
        obtain rfl := List.mem_singleton.1 hw
        have hlast : items.findIdx (·.same w) = items.length :=
          List.findIdx_eq_length.2 fun x hx => Bool.eq_false_iff.2 (hnone x hx)
        rw [(hplace hv).1, List.findIdx_append, hlast, if_neg (lt_irrefl _)]
        exact Nat.lt_add_left _ (hplace hv).2

end Value

namespace SetOp

open Value

variable {a b : List Value} {v : Value}

/-! ## Lists -/

theorem union_onLists : union.onLists a b = firstOnes [] a ++ diff.onLists b a := by
  refine firstOnes_append.trans (congrArg _ ?_)
  rw [List.append_nil]
  exact firstOnes_eq_of_filter

/-- An intersection is a choice among the first ones of its left operand. -/
theorem intersect_onLists : intersect.onLists a b = (firstOnes [] a).filter (·.isIn b) :=
  firstOnes_filter (respects_isIn b) fun _ _ => rfl

/-- A difference makes the opposite choice. -/
theorem diff_onLists : diff.onLists a b = (firstOnes [] a).filter (! ·.isIn b) :=
  firstOnes_filter (respects_isIn b).not fun _ _ => rfl

theorem isIn_union : v.isIn (union.onLists a b) = (v.isIn a || v.isIn b) :=
  isIn_firstOnes.trans isIn_append

theorem isIn_intersect : v.isIn (intersect.onLists a b) = (v.isIn a && v.isIn b) :=
  isIn_firstOnes.trans (isIn_filter (respects_isIn b))

theorem isIn_diff : v.isIn (diff.onLists a b) = (v.isIn a && !v.isIn b) :=
  isIn_firstOnes.trans (isIn_filter (respects_isIn b).not)

theorem pairwise_onLists (op : SetOp) :
    (op.onLists a b).Pairwise fun v w => v.same w = false ∧ w.same v = false := by
  cases op <;> exact pairwise_firstOnes

/-- The list in which the items of a result occur first. -/
def source (op : SetOp) (a b : List Value) : List Value :=
  match op with
  | .union => a ++ b
  | .intersect | .diff => a

theorem firstOccurrences_onLists (op : SetOp) (hself : ∀ v ∈ a ++ b, v.same v = true) :
    FirstOccurrences (op.source a b) (op.onLists a b) := by
  have hleft : FirstOccurrences a (firstOnes [] a) :=
    firstOccurrences_firstOnes fun v hv => hself v (List.mem_append_left b hv)
  cases op with
  | union => exact firstOccurrences_firstOnes hself
  | intersect => exact intersect_onLists ▸ hleft.filter _
  | diff => exact diff_onLists ▸ hleft.filter _

/-- **Every first item is in the intersection or in the difference**, and then nothing that
equals it is in the other one. -/
theorem mem_intersect_or_diff (hv : v ∈ firstOnes [] a) :
    (v ∈ intersect.onLists a b ∧ v.isIn (diff.onLists a b) = false) ∨
      (v ∈ diff.onLists a b ∧ v.isIn (intersect.onLists a b) = false) := by
  rw [isIn_intersect, isIn_diff, intersect_onLists, diff_onLists, List.mem_filter,
    List.mem_filter]
  cases v.isIn b <;> simp [hv]

/-! ## Maps -/

variable {m n : Table String Value} {k : String}

theorem get?_union : Entries.get? k (union.onMaps m.entries n.entries) = (n.get? k).or (m.get? k) :=
  n.sorted.get?_extend m.entries k

theorem get?_intersect : Entries.get? k (intersect.onMaps m.entries n.entries)
    = if n.contains k then m.get? k else none :=
  Entries.get?_filter (Entries.contains · n.entries) k m.entries

theorem get?_diff : Entries.get? k (diff.onMaps m.entries n.entries)
    = if n.contains k then none else m.get? k := by
  refine (Entries.get?_filter (!Entries.contains · n.entries) k m.entries).trans ?_
  change (if !n.contains k then m.get? k else none) = _
  cases n.contains k <;> rfl

theorem sorted_onMaps (op : SetOp) : Entries.Sorted (op.onMaps m.entries n.entries) := by
  cases op with
  | union => exact m.sorted.extend
  | intersect => exact m.sorted.filter _
  | diff => exact m.sorted.filter _

/-- **A map is put together** from its intersection and its difference. -/
theorem union_intersect_diff : union.onMaps (intersect.onMaps m.entries n.entries)
    (diff.onMaps m.entries n.entries) = m.entries := by
  have hwhole : Entries.Sorted (union.onMaps (intersect.onMaps m.entries n.entries)
      (diff.onMaps m.entries n.entries)) := (sorted_onMaps .intersect).extend
  refine hwhole.ext m.sorted fun k => ?_
  refine ((sorted_onMaps .diff).get?_extend _ k).trans ?_
  rw [get?_intersect, get?_diff]
  cases n.contains k
  · exact Option.or_none
  · rfl

end SetOp

end EntityBase
