import EntityBase.Proofs.Binary64.Order

/-!
# Contents — data that equal the same data

Two doubles that equal a third are numbers, and equal one another. So do values, fields
and the contents of components: what has the content of one component has one content
(`Component.sameContent_of_sameContent`).
-/

namespace EntityBase

namespace Binary64

open Float.Model

variable {x y z : Float}

/-- What equals something is a number. -/
theorem isNumber_of_beq (h : (x == y) = true) : IsNumber x ∧ IsNumber y := by
  have hequal : (x.toModel.unpack.compare y.toModel.unpack == some .eq) = true := h
  have hnone : ∀ u : UnpackedFloat, u.compare .notANumber = none := by
    rintro ((_ | _) | _ | _ | ⟨_ | _, _, _, _⟩) <;> rfl
  refine ⟨fun hx => ?_, fun hy => ?_⟩
  · rw [hx] at hequal
    cases hequal
  · rw [hy, hnone] at hequal
    cases hequal

/-- Doubles that equal one double equal one another. -/
theorem beq_of_beq_beq (hx : (x == z) = true) (hy : (y == z) = true) : (x == y) = true := by
  obtain ⟨hxnum, hznum⟩ := isNumber_of_beq hx
  obtain ⟨hynum, -⟩ := isNumber_of_beq hy
  rw [beq_eq_rank_isEq hxnum hznum, Ordering.isEq_iff_eq_eq, compare_eq_iff_eq] at hx
  rw [beq_eq_rank_isEq hynum hznum, Ordering.isEq_iff_eq_eq, compare_eq_iff_eq] at hy
  rw [beq_eq_rank_isEq hxnum hynum, Ordering.isEq_iff_eq_eq, compare_eq_iff_eq, hx, hy]

end Binary64

namespace Json

variable {a c : Json}

/-! ## What is the same as a value of one kind -/

theorem exists_float_of_same {z : Float} (h : a.same (.float z) = true) :
    ∃ x, a = .float x ∧ (x == z) = true := by
  cases a with
  | float x => exact ⟨x, rfl, h⟩
  | _ => cases h

theorem exists_array_of_same {cs : List Json} (h : a.same (.array cs) = true) :
    ∃ as, a = .array as ∧ sameItems as cs = true := by
  cases a with
  | array as => exact ⟨as, rfl, h⟩
  | _ => cases h

theorem exists_object_of_same {cs : List (String × Json)} (h : a.same (.object cs) = true) :
    ∃ as, a = .object as ∧ sameFields as cs = true := by
  cases a with
  | object as => exact ⟨as, rfl, h⟩
  | _ => cases h

/-- Whether a value is neither a double nor put together of others. -/
def Simple : Json → Prop
  | .float _ | .array _ | .object _ => False
  | _ => True

theorem eq_of_same (hc : c.Simple) (h : a.same c = true) : a = c := by
  cases c with
  | float _ => exact hc.elim
  | array _ => exact hc.elim
  | object _ => exact hc.elim
  | null =>
    cases a with
    | null => rfl
    | _ => cases h
  | bool d =>
    cases a with
    | bool b => exact congrArg _ (eq_of_beq h)
    | _ => cases h
  | int m =>
    cases a with
    | int n => exact congrArg _ (eq_of_beq h)
    | _ => cases h
  | string t =>
    cases a with
    | string s => exact congrArg _ (eq_of_beq h)
    | _ => cases h

theorem Simple.same_self (hc : c.Simple) : c.same c = true := by
  cases c with
  | float _ => exact hc.elim
  | array _ => exact hc.elim
  | object _ => exact hc.elim
  | _ => simp [same]

theorem same_of_simple (c : Json) (hc : c.Simple) {a b : Json} (ha : a.same c = true)
    (hb : b.same c = true) : a.same b = true := by
  rw [eq_of_same hc ha, eq_of_same hc hb]
  exact hc.same_self

/-! ## Values that are the same as one value -/

mutual

/-- Values that are the same as one value are the same. -/
theorem same_of_same_same : (a b c : Json) → a.same c = true → b.same c = true → a.same b = true
  | a, b, .float z, ha, hb => by
    obtain ⟨x, rfl, hx⟩ := exists_float_of_same ha
    obtain ⟨y, rfl, hy⟩ := exists_float_of_same hb
    exact Binary64.beq_of_beq_beq hx hy
  | a, b, .array cs, ha, hb => by
    obtain ⟨as, rfl, has⟩ := exists_array_of_same ha
    obtain ⟨bs, rfl, hbs⟩ := exists_array_of_same hb
    exact sameItems_of_same_same as bs cs has hbs
  | a, b, .object cs, ha, hb => by
    obtain ⟨as, rfl, has⟩ := exists_object_of_same ha
    obtain ⟨bs, rfl, hbs⟩ := exists_object_of_same hb
    exact sameFields_of_same_same as bs cs has hbs
  | _, _, .null, ha, hb => same_of_simple .null trivial ha hb
  | _, _, .bool d, ha, hb => same_of_simple (.bool d) trivial ha hb
  | _, _, .int n, ha, hb => same_of_simple (.int n) trivial ha hb
  | _, _, .string s, ha, hb => same_of_simple (.string s) trivial ha hb

theorem sameItems_of_same_same : (as bs cs : List Json) → sameItems as cs = true →
    sameItems bs cs = true → sameItems as bs = true
  | as, bs, [], ha, hb => by
    cases as with
    | cons _ _ => cases ha
    | nil =>
      cases bs with
      | cons _ _ => cases hb
      | nil => rfl
  | as, bs, c :: cs, ha, hb => by
    cases as with
    | nil => cases ha
    | cons a as =>
      cases bs with
      | nil => cases hb
      | cons b bs =>
        rw [sameItems, Bool.and_eq_true] at ha hb ⊢
        exact ⟨same_of_same_same a b c ha.1 hb.1, sameItems_of_same_same as bs cs ha.2 hb.2⟩

theorem sameFields_of_same_same : (as bs cs : List (String × Json)) → sameFields as cs = true →
    sameFields bs cs = true → sameFields as bs = true
  | as, bs, [], ha, hb => by
    cases as with
    | cons _ _ => cases ha
    | nil =>
      cases bs with
      | cons _ _ => cases hb
      | nil => rfl
  | as, bs, (k, c) :: cs, ha, hb => by
    cases as with
    | nil => cases ha
    | cons a as =>
      cases bs with
      | nil => cases hb
      | cons b bs =>
        simp only [sameFields, Bool.and_eq_true, beq_iff_eq] at ha hb ⊢
        exact ⟨⟨ha.1.1.trans hb.1.1.symm, same_of_same_same a.2 b.2 c ha.1.2 hb.1.2⟩,
          sameFields_of_same_same as bs cs ha.2 hb.2⟩

end

end Json

/-- **Components that have the content of one have the same content.** -/
theorem Component.sameContent_of_sameContent {a b c : Component} (ha : a.sameContent c = true)
    (hb : b.sameContent c = true) : a.sameContent b = true := by
  simp only [sameContent, Bool.and_eq_true, beq_iff_eq] at ha hb ⊢
  exact ⟨ha.1.trans hb.1.symm, Json.sameFields_of_same_same _ _ _ ha.2 hb.2⟩

end EntityBase
