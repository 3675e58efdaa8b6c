import EntityBase.Proofs.Component.Fields
import EntityBase.Value.Collection

/-!
# Values by keys — lists, maps and components

What is put at a key of a list, a map or a component (`put?`) and what is got there (`got?`).
Positions of a list are read in the same way for both, and the place behind the last item is
one to put an item at (`exists_place_of_putAt?`); keys of a map are themselves. The key under
which a field of a component is put is a name, and the one by which it is got a pointer.
-/

namespace EntityBase.Value

variable {c c' v w : Value} {k : Scalar} {items items' : List Value} {i : Int} {n p q : Nat}

/-- What stands at a key. -/
def got? : Value → Scalar → Option Value
  | .list items, k => k.toInt?.map (itemAt items)
  | .map fields, k => k.name?.map fun key => (Entries.get? key fields).getD nil
  | .component c, k => k.name?.map fun key => ((c.pointer? key).map ofJson).getD nil
  | _, _ => none

/-- The same with another value at a key. -/
def put? : Value → Scalar → Value → Option Value
  | .list items, k, v => (k.toInt?.bind fun i => putAt? items i v).map .list
  | .map fields, k, v => k.name?.map fun key => .map (Entries.insert key v fields)
  | .component c, k, v => k.name?.map fun key => .component (c.setField key v.toJson)
  | _, _, _ => none

/-- The values that have something at keys. -/
def IsKeyed : Value → Prop
  | .list _ | .map _ | .component _ => True
  | _ => False

/-- The keys at which a value can be put: the places of a list and the one behind them, from
either end, and any name. -/
def Accepts : Value → Scalar → Prop
  | .list items, k => ∃ i, k.toInt? = some i ∧ -(items.length : Int) ≤ i ∧ i ≤ items.length
  | .map _, k | .component _, k => ∃ key, k.name? = some key
  | _, _ => False

/-! ## Positions -/

theorem place?_eq_some_iff :
    place? n i = some p ↔ p < n ∧ (i = p ∨ i = (p : Int) - n) := by
  unfold place?
  split <;> split <;> simp only [Option.some.injEq, reduceCtorEq, false_iff] <;> omega

theorem place?_isSome_iff : (place? n i).isSome ↔ -(n : Int) ≤ i ∧ i < n := by
  unfold place?
  split <;> split <;> simp only [Option.isSome_some, Option.isSome_none, true_iff,
    Bool.false_eq_true, false_iff] <;> omega

/-- Items are put where there is a place, or behind the last one. -/
theorem putAt?_isSome_iff :
    (putAt? items i v).isSome ↔ -(items.length : Int) ≤ i ∧ i ≤ items.length := by
  unfold putAt?
  cases hplace : place? items.length i with
  | some q =>
    have hi := place?_isSome_iff.1 (Option.isSome_of_eq_some hplace)
    exact iff_of_true rfl ⟨hi.1, Int.le_of_lt hi.2⟩
  | none =>
    have hi : ¬ (-(items.length : Int) ≤ i ∧ i < items.length) := fun hi => by
      rw [← place?_isSome_iff, hplace] at hi
      cases hi
    by_cases hlast : i = items.length
    · exact iff_of_true (by rw [if_pos hlast]; rfl) ⟨by omega, Int.le_of_eq hlast⟩
    · refine iff_of_false (by simp [hlast]) fun h => hi ⟨h.1, by omega⟩

/-- **An item is put at the place that is then its position**, the other places keep theirs,
and it makes no difference what was put there before. -/
theorem exists_place_of_putAt? (h : putAt? items i v = some items') :
    ∃ q, place? items'.length i = some q ∧
      (∀ p, items'[p]? = if p = q then some v else items[p]?) ∧
      ∀ w, putAt? items' i w = putAt? items i w := by
  unfold putAt? at h
  cases hplace : place? items.length i with
  | some q =>
    have hq := (place?_eq_some_iff.1 hplace).1
    rw [hplace] at h
    obtain rfl := Option.some.inj h
    have hplace' : place? (items.set q v).length i = some q := by rw [List.length_set, hplace]
    refine ⟨q, hplace', fun p => ?_, fun w => ?_⟩
    · rw [List.getElem?_set]
      by_cases hp : p = q
      · subst hp
        simp [hq]
      · simp [hp, Ne.symm hp]
    · rw [putAt?, putAt?, hplace', hplace]
      exact congrArg some (List.set_set v)
  | none =>
    rw [hplace] at h
    obtain ⟨hi, h⟩ := Option.ite_none_right_eq_some.1 h
    obtain rfl := Option.some.inj h
    have hplace' : place? (items ++ [v]).length i = some items.length :=
      place?_eq_some_iff.2 ⟨by simp, .inl hi⟩
    refine ⟨items.length, hplace', fun p => ?_, fun w => ?_⟩
    · rcases Nat.lt_trichotomy p items.length with hp | rfl | hp
      · rw [List.getElem?_append_left hp, if_neg (Nat.ne_of_lt hp)]
      · simp
      · have hend : (items ++ [v]).length ≤ p := by
          rw [List.length_append]
          exact hp
        rw [if_neg (Nat.ne_of_gt hp), List.getElem?_eq_none hend,
          List.getElem?_eq_none (Nat.le_of_lt hp)]
    · rw [putAt?, putAt?, hplace', hplace]
      simp [hi]

theorem itemAt_eq (h : place? items.length i = some p) (hp : items[p]? = some v) :
    itemAt items i = v := by
  rw [itemAt, h, Option.bind_some, hp]
  rfl

/-! ## Putting -/

/-- **A value can be put at the keys that are accepted**, and only there. -/
theorem put?_isSome_iff : (c.put? k v).isSome ↔ c.Accepts k := by
  cases c with
  | list items =>
    rw [put?, Option.isSome_map]
    cases hk : k.toInt? with
    | none => simp [Accepts, hk]
    | some i => simp [Accepts, hk, putAt?_isSome_iff]
  | map _ => rw [put?, Option.isSome_map, Option.isSome_iff_exists, Accepts]
  | component _ => rw [put?, Option.isSome_map, Option.isSome_iff_exists, Accepts]
  | _ => exact iff_of_false (by simp [put?]) id

end EntityBase.Value
