import EntityBase.Proofs.Binary64.OfInt
import EntityBase.Proofs.WellFormed
import EntityBase.Value.Order

/-!
# The order of doubles

Doubles that are numbers, infinite ones among them, are in a linear order but for the
two zeros: first by sign, then by exponent, then by mantissa. `rank` puts that into three
integers, and comparisons of doubles are comparisons of their ranks
(`floatOrder?_of_isNumber`, `le_iff_rank_le`). What is no number compares with nothing; no
integer becomes such a double (`isNumber_ofInt`).
-/

namespace EntityBase.Binary64

open Float.Model Float.Model.UnpackedFloat

variable {u v : UnpackedFloat} {x y : Float}

/-- The place of a double in the order: negative, zero or positive, then exponent and
mantissa, of negative doubles turned around. -/
def rankOf : UnpackedFloat → ℤ ×ₗ ℤ ×ₗ ℤ
  | .infinity .negative => toLex (-2, toLex (0, 0))
  | .finite .negative m e _ => toLex (-1, toLex (-e, -m))
  | .zero _ | .notANumber => toLex (0, toLex (0, 0))
  | .finite .positive m e _ => toLex (1, toLex (e, m))
  | .infinity .positive => toLex (2, toLex (0, 0))

/-- Where the first places agree, the others decide. -/
theorem compare_toLex (i e m e' m' : Int) :
    compare (toLex (i, toLex (e, m))) (toLex (i, toLex (e', m')))
      = (compare e e').then (compare m m') := by
  simp [Prod.Lex.compare_def, compareLex, compareOn]

theorem compare_toLex_of_lt {i j : Int} (h : i < j) (p q : ℤ ×ₗ ℤ) :
    compare (toLex (i, p)) (toLex (j, q)) = .lt :=
  compare_lt_iff_lt.2 (Prod.Lex.toLex_lt_toLex.2 (.inl h))

theorem compare_toLex_of_gt {i j : Int} (h : j < i) (p q : ℤ ×ₗ ℤ) :
    compare (toLex (i, p)) (toLex (j, q)) = .gt :=
  compare_gt_iff_gt.2 (Prod.Lex.toLex_lt_toLex.2 (.inl h))

/-- **Numbers compare as their ranks do.** -/
theorem compare_rankOf (hu : u ≠ .notANumber) (hv : v ≠ .notANumber) :
    u.compare v = some (compare (rankOf u) (rankOf v)) := by
  have hfirst {i j : Int} (h : i < j) (p q : ℤ ×ₗ ℤ) :
      some Ordering.lt = some (compare (toLex (i, p)) (toLex (j, q))) ∧
        some Ordering.gt = some (compare (toLex (j, q)) (toLex (i, p))) := by
    rw [compare_toLex_of_lt h, compare_toLex_of_gt h]
    exact ⟨rfl, rfl⟩
  -- the first place decides unless both are finite and of the same sign
  rcases u with (_ | _) | _ | _ | ⟨_ | _, m, e, hm⟩ <;>
    rcases v with (_ | _) | _ | _ | ⟨_ | _, m', e', hm'⟩ <;>
    first
      | exact absurd rfl hu
      | exact absurd rfl hv
      | exact congrArg some (compare_eq_iff_eq.2 rfl).symm
      | exact (hfirst (by decide) _ _).1
      | exact (hfirst (by decide) _ _).2
      | refine congrArg some ?_
  · rw [rankOf, rankOf, compare_toLex, compare_neg, compare_neg, compare_natCast,
      Ordering.swap_then]
  · rw [rankOf, rankOf, compare_toLex, compare_natCast]

/-! ## Doubles that are numbers -/

/-- A double that is a number, perhaps an infinite one. -/
def IsNumber (x : Float) : Prop := x.toModel.unpack ≠ .notANumber

/-- The place of a double in the order. -/
def rank (x : Float) : ℤ ×ₗ ℤ ×ₗ ℤ := rankOf x.toModel.unpack

theorem isNumber_of_isFinite (h : isFinite x = true) : IsNumber x := unpack_ne_notANumber h

theorem lt_iff_rank_lt (hx : IsNumber x) (hy : IsNumber y) : x < y ↔ rank x < rank y := by
  have hmodel : x < y ↔ (x.toModel.unpack.compare y.toModel.unpack == some .lt) = true := by
    change decide (x.toModel < y.toModel) = true ↔ _
    rw [decide_eq_true_iff]
    rfl
  rw [hmodel, compare_rankOf hx hy, beq_iff_eq, Option.some_inj, compare_lt_iff_lt]
  rfl

/-- **Numbers are ordered as their ranks are.** -/
theorem le_iff_rank_le (hx : IsNumber x) (hy : IsNumber y) : x ≤ y ↔ rank x ≤ rank y := by
  have hmodel : x ≤ y ↔ (x.toModel.unpack.compare y.toModel.unpack).any (·.isLE) = true := by
    change decide (x.toModel ≤ y.toModel) = true ↔ _
    rw [decide_eq_true_iff]
    rfl
  rw [hmodel, compare_rankOf hx hy, Option.any_some, Ordering.isLE_iff_ne_gt]
  exact (not_congr compare_gt_iff_gt).trans not_lt

theorem beq_eq_rank_isEq (hx : IsNumber x) (hy : IsNumber y) :
    (x == y) = (compare (rank x) (rank y)).isEq := by
  have hmodel : (x == y) = (x.toModel.unpack.compare y.toModel.unpack == some .eq) := rfl
  rw [hmodel, compare_rankOf hx hy, rank, rank]
  cases compare (rankOf x.toModel.unpack) (rankOf y.toModel.unpack) <;> rfl

theorem floatOrder?_of_isNumber (hx : IsNumber x) (hy : IsNumber y) :
    Value.floatOrder? x y = some (compare (rank x) (rank y)) := by
  unfold Value.floatOrder?
  rw [beq_eq_rank_isEq hx hy]
  simp only [lt_iff_rank_lt hx hy, lt_iff_rank_lt hy hx]
  rcases lt_trichotomy (rank x) (rank y) with h | h | h
  · rw [if_pos h, compare_lt_iff_lt.2 h]
  · rw [h, if_neg (lt_irrefl _), if_neg (lt_irrefl _), compare_eq_iff_eq.2 rfl]
    rfl
  · rw [if_neg h.asymm, if_pos h, compare_gt_iff_gt.2 h]

/-! ## Integers become numbers -/

/-- What is packed as a number is unpacked as one. -/
theorem isNumber_pack (hu : u ≠ .notANumber) : IsNumber (.ofModel (Float.Model.pack u)) := by
  have hcomponents {s : Sign} {e : BitVec 11} (m : BitVec 52) (he : e ≠ -1#11) :
      UnpackedFloat.unpack Format.binary64 (packComponents Format.binary64 s e m)
        ≠ .notANumber := by
    unfold UnpackedFloat.unpack
    simp only [unpackMantissa_packComponents, unpackExponent_packComponents, if_neg he]
    split
    · split <;> exact UnpackedFloat.noConfusion
    · exact UnpackedFloat.noConfusion
  have hinfinity (s : Sign) :
      UnpackedFloat.unpack Format.binary64 (packedInfinity Format.binary64 s) ≠ .notANumber := by
    simp [UnpackedFloat.unpack, packedInfinity]
  change UnpackedFloat.unpack Format.binary64 (UnpackedFloat.pack Format.binary64 u) ≠ _
  cases u with
  | notANumber => exact absurd rfl hu
  | infinity s => exact hinfinity s
  | zero s => exact hcomponents 0#52 (by decide)
  | finite s m e hm =>
    unfold UnpackedFloat.pack
    dsimp only
    split
    · exact hinfinity s
    · rename_i hroom
      split
      · refine hcomponents _ fun hones => hroom ?_
        -- all ones would be an exponent without room
        have htoNat := congrArg BitVec.toNat hones
        rw [BitVec.toNat_ofNat] at htoNat
        change _ % 2048 = 2047 at htoNat
        change ¬ 2048 ≤ _ + 1 at hroom
        omega
      · exact hcomponents _ (by decide)

theorem roundWithAccuracy_ne_notANumber (s : Sign) (m : Nat) (e : Int) (a : Accuracy) :
    roundWithAccuracy Format.binary64 s m e a ≠ .notANumber := by
  unfold roundWithAccuracy
  dsimp only
  split <;> exact UnpackedFloat.noConfusion

theorem isNumber_of_stands {n : Int} (h : Stands x n) : IsNumber x := by
  intro hnan
  cases h with
  | zero h => rw [h] at hnan; cases hnan
  | finite h => rw [h] at hnan; cases hnan

theorem isNumber_ofNat (n : Nat) : IsNumber (Float.ofNat n) := by
  rcases Nat.lt_or_ge n (2 ^ 53) with hlt | hge
  · exact isNumber_of_stands (stands_ofNat_small hlt)
  · have hscientific : Float.ofNat n
        = .ofModel (Float.Model.pack (UnpackedFloat.ofScientific Format.binary64 n 0)) := by
      change Float.ofScientific n false 0 = _
      rw [Float.ofScientific, dif_neg (by omega)]
      rfl
    rw [hscientific, ofScientific_natural (by omega)]
    exact isNumber_pack (roundWithAccuracy_ne_notANumber _ _ _ _)

/-- **Integers of any size become numbers**, if need be infinite ones. -/
theorem isNumber_ofInt (n : Int) : IsNumber (Float.ofInt n) := by
  cases n with
  | ofNat n => exact isNumber_ofNat n
  | negSucc n =>
    have hpositive := isNumber_ofNat (n + 1)
    refine isNumber_pack (u := (Float.ofNat (n + 1)).toModel.unpack.neg) ?_
    unfold IsNumber at hpositive
    cases h : (Float.ofNat (n + 1)).toModel.unpack with
    | notANumber => exact absurd h hpositive
    | _ => exact UnpackedFloat.noConfusion

end EntityBase.Binary64
