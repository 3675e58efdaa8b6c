import EntityBase.Decimal
import Mathlib.Algebra.Order.Field.Power
import Mathlib.Algebra.Order.Field.Rat
import Mathlib.Tactic.FieldSimp
import Mathlib.Tactic.Linarith
import Mathlib.Tactic.Ring

/-!
# Intervals of a double — which decimals read back to it

The comparisons of the printer cross-multiply, and here they are what they
stand for: comparisons of rational numbers. The decimals that read back to
`m * 2 ^ e` are those of an interval (`Within`), and the intervals of two
doubles do not meet (`within_unique`): where they touch, the common end is a
tie, and of two neighbours one is odd and leaves its ends out.

What the printer looks for it finds. The digits that it settles for read back
(`within_shortest`), so no two doubles get the same ones
(`shortest_unique`).
-/

namespace EntityBase.Decimal

open Binary64

variable {m m' : Nat} {e e' : Int} {q : ℚ} {d : Scaled} {tie : Tie}

/-- The number that a decimal stands for. -/
def Scaled.value (d : Scaled) : ℚ := d.digits * (10 : ℚ) ^ d.exponent

/-! ## Comparing without rounding -/

/-- A power is what its exponent has above zero over what it has below. -/
theorem zpow_eq_div {b : ℚ} (hb : b ≠ 0) (i : Int) :
    b ^ i = b ^ i.toNat / b ^ (-i).toNat := by
  rw [eq_div_iff (pow_ne_zero _ hb), ← zpow_natCast, ← zpow_natCast, ← zpow_add₀ hb]
  congr 1
  omega

/-- Both sides of a comparison are the numbers compared, times one positive factor. -/
theorem compareScaled_sides (a : Nat) (i : Int) (n : Nat) (j : Int) :
    ∃ c : ℚ, 0 < c ∧
      (((a * Nat.pow 10 i.toNat) <<< (-j).toNat : Nat) : ℚ) = a * (10 : ℚ) ^ i * c ∧
      (((n * Nat.pow 10 (-i).toNat) <<< j.toNat : Nat) : ℚ) = n * (2 : ℚ) ^ j * c := by
  refine ⟨10 ^ (-i).toNat * 2 ^ (-j).toNat, by positivity, ?_, ?_⟩
  · rw [Nat.shiftLeft_eq, zpow_eq_div (b := 10) (by norm_num) i]
    push_cast [Nat.pow_eq]
    field_simp
  · rw [Nat.shiftLeft_eq, zpow_eq_div (b := 2) (by norm_num) j]
    push_cast [Nat.pow_eq]
    field_simp

theorem compareScaled_eq_gt {a : Nat} {i : Int} {n : Nat} {j : Int} :
    compareScaled a i n j = .gt ↔ (n : ℚ) * 2 ^ j < a * 10 ^ i := by
  obtain ⟨c, hc, hleft, hright⟩ := compareScaled_sides a i n j
  rw [compareScaled, compare_gt_iff_gt, ← Nat.cast_lt (α := ℚ), hleft, hright]
  exact mul_lt_mul_iff_left₀ hc

theorem compareScaled_eq_lt {a : Nat} {i : Int} {n : Nat} {j : Int} :
    compareScaled a i n j = .lt ↔ (a : ℚ) * 10 ^ i < n * 2 ^ j := by
  obtain ⟨c, hc, hleft, hright⟩ := compareScaled_sides a i n j
  rw [compareScaled, compare_lt_iff_lt, ← Nat.cast_lt (α := ℚ), hleft, hright]
  exact mul_lt_mul_iff_left₀ hc

theorem compareScaled_eq_eq {a : Nat} {i : Int} {n : Nat} {j : Int} :
    compareScaled a i n j = .eq ↔ (a : ℚ) * 10 ^ i = n * 2 ^ j := by
  obtain ⟨c, hc, hleft, hright⟩ := compareScaled_sides a i n j
  rw [compareScaled, compare_eq_iff_eq, ← Nat.cast_inj (R := ℚ), hleft, hright]
  exact mul_left_inj' hc.ne'

/-! ## The interval of a double -/

/-- The mantissas and exponents that doubles have: the mantissa fills its field, or the
exponent is the least one. -/
structure Proper (m : Nat) (e : Int) : Prop where
  lt : m < 2 * hiddenBit
  least : -1074 ≤ e
  filled : hiddenBit ≤ m ∨ e = -1074

/-- The middle to the lower neighbour, in quarters of the last place. -/
def lowQuarters (m : Nat) (e : Int) : Nat :=
  if m = hiddenBit ∧ e ≠ -1074 then 4 * m - 1 else 4 * m - 2

/-- **Whether a number rounds to a double.** It lies between the middles to both
neighbours, and may be one of the middles where the mantissa is even. -/
structure Within (m : Nat) (e : Int) (q : ℚ) : Prop where
  low : lowQuarters m e * (2 : ℚ) ^ (e - 2) ≤ q
  high : q ≤ (4 * m + 2 : Nat) * (2 : ℚ) ^ (e - 2)
  inside : m % 2 = 0 ∨
    lowQuarters m e * (2 : ℚ) ^ (e - 2) < q ∧ q < (4 * m + 2 : Nat) * (2 : ℚ) ^ (e - 2)

/-- **The test of the printer** is whether the decimal rounds to the double. -/
theorem readsBack_iff : readsBack m e d = true ↔ Within m e d.value := by
  have hlow : (if m = hiddenBit ∧ e ≠ -1074 then 4 * m - 1 else 4 * m - 2) = lowQuarters m e := rfl
  unfold readsBack
  simp only [hlow, Bool.and_eq_true, Bool.or_eq_true, beq_iff_eq, compareScaled_eq_gt,
    compareScaled_eq_lt, compareScaled_eq_eq]
  change (_ < d.value ∨ _ ∧ d.value = _) ∧ (d.value < _ ∨ _ ∧ d.value = _) ↔ _
  constructor
  · rintro ⟨hlow, hhigh⟩
    refine ⟨?_, ?_, ?_⟩
    · exact hlow.elim le_of_lt fun h => h.2.ge
    · exact hhigh.elim le_of_lt fun h => h.2.le
    · rcases hlow with hlow | ⟨heven, -⟩
      · rcases hhigh with hhigh | ⟨heven, -⟩
        · exact Or.inr ⟨hlow, hhigh⟩
        · exact Or.inl heven
      · exact Or.inl heven
  · rintro ⟨hlow, hhigh, heven | ⟨hlow', hhigh'⟩⟩
    · exact ⟨hlow.lt_or_eq.imp id fun h => ⟨heven, h.symm⟩, hhigh.lt_or_eq.imp id fun h => ⟨heven, h⟩⟩
    · exact ⟨Or.inl hlow', Or.inl hhigh'⟩

theorem lowQuarters_pos (hm : m ≠ 0) : 0 < lowQuarters m e := by
  unfold lowQuarters
  split <;> omega

theorem lowQuarters_lt (hm : m ≠ 0) : lowQuarters m e < 4 * m := by
  unfold lowQuarters
  split <;> omega

/-- Only positive numbers round to a double that is not zero. -/
theorem Within.pos (h : Within m e q) (hm : m ≠ 0) : 0 < q := by
  have hquarters : (0 : ℚ) < lowQuarters m e := Nat.cast_pos.2 (lowQuarters_pos hm)
  have hpower : (0 : ℚ) < 2 ^ (e - 2) := by positivity
  exact (mul_pos hquarters hpower).trans_le h.low

/-- A double rounds to itself. -/
theorem within_self (hm : m ≠ 0) : Within m e (m * 2 ^ e) := by
  have hpower : (0 : ℚ) < 2 ^ (e - 2) := by positivity
  have hvalue : (m : ℚ) * 2 ^ e = (4 * m : Nat) * 2 ^ (e - 2) := by
    rw [zpow_sub₀ (by norm_num)]
    push_cast
    ring
  have hlow : lowQuarters m e * (2 : ℚ) ^ (e - 2) < m * 2 ^ e := by
    rw [hvalue]
    exact mul_lt_mul_of_pos_right (Nat.cast_lt.2 (lowQuarters_lt hm)) hpower
  have hhigh : (m : ℚ) * 2 ^ e < (4 * m + 2 : Nat) * (2 : ℚ) ^ (e - 2) := by
    rw [hvalue]
    exact mul_lt_mul_of_pos_right (Nat.cast_lt.2 (by omega)) hpower
  exact ⟨hlow.le, hhigh.le, Or.inr ⟨hlow, hhigh⟩⟩

/-- Two intervals, one of which ends where the other begins or before it, have no number in
common, unless both mantissas are even. -/
theorem Within.even_of_touching (h : Within m e q) (h' : Within m' e' q)
    (htouch : (4 * m + 2 : Nat) * (2 : ℚ) ^ (e - 2) ≤ lowQuarters m' e' * (2 : ℚ) ^ (e' - 2)) :
    m % 2 = 0 ∧ m' % 2 = 0 ∧
      (4 * m + 2 : Nat) * (2 : ℚ) ^ (e - 2) = lowQuarters m' e' * (2 : ℚ) ^ (e' - 2) := by
  have heq := le_antisymm htouch (h'.low.trans h.high)
  have hhigh : ¬ q < (4 * m + 2 : Nat) * (2 : ℚ) ^ (e - 2) :=
    not_lt.2 (heq.le.trans h'.low)
  have hlow : ¬ lowQuarters m' e' * (2 : ℚ) ^ (e' - 2) < q :=
    not_lt.2 (h.high.trans heq.le)
  exact ⟨h.inside.resolve_right fun hin => hhigh hin.2,
    h'.inside.resolve_right fun hin => hlow hin.1, heq⟩

/-- Of two doubles with one exponent, the greater one has the later interval. -/
theorem not_within_of_lt (hlt : m < m') (h : Within m e q) (h' : Within m' e q) : False := by
  have hpower : (0 : ℚ) < 2 ^ (e - 2) := by positivity
  have hquarters : 4 * m + 2 ≤ lowQuarters m' e := by
    unfold lowQuarters
    split <;> omega
  obtain ⟨heven, heven', heq⟩ := h.even_of_touching h'
    (mul_le_mul_of_nonneg_right (Nat.cast_le.2 hquarters) hpower.le)
  have hsame : 4 * m + 2 = lowQuarters m' e := Nat.cast_injective (mul_right_cancel₀ hpower.ne' heq)
  -- the ends meet only for neighbours, and one of them is odd
  unfold lowQuarters at hsame
  split at hsame <;> omega

/-- Of two doubles, the one with the greater exponent has the later interval. -/
theorem not_within_of_exponent_lt (hp : Proper m e) (hp' : Proper m' e') (hlt : e < e')
    (h : Within m e q) (h' : Within m' e' q) : False := by
  have hpower : (0 : ℚ) < 2 ^ (e - 2) := by positivity
  have hfilled : hiddenBit ≤ m' := hp'.filled.resolve_right (by have := hp.least; omega)
  have hquarters : 4 * hiddenBit - 1 ≤ lowQuarters m' e' := by
    have := hp.least
    unfold lowQuarters
    split <;> omega
  have hbound := hp.lt
  -- one step of the exponent doubles what a quarter is worth
  have hstep : (2 : ℚ) * 2 ^ (e - 2) ≤ 2 ^ (e' - 2) := by
    rw [← zpow_one_add₀ (by norm_num)]
    exact zpow_le_zpow_right₀ (by norm_num) (by omega)
  have hmiddle : ((2 * (4 * hiddenBit - 1) : Nat) : ℚ) * 2 ^ (e - 2)
      ≤ lowQuarters m' e' * 2 ^ (e' - 2) := by
    calc ((2 * (4 * hiddenBit - 1) : Nat) : ℚ) * 2 ^ (e - 2)
        = (4 * hiddenBit - 1 : Nat) * (2 * 2 ^ (e - 2)) := by push_cast; ring
      _ ≤ lowQuarters m' e' * 2 ^ (e' - 2) :=
          mul_le_mul (Nat.cast_le.2 hquarters) hstep (by positivity) (by positivity)
  have hends : 4 * m + 2 ≤ 2 * (4 * hiddenBit - 1) := by omega
  obtain ⟨heven, -, heq⟩ := h.even_of_touching h'
    ((mul_le_mul_of_nonneg_right (Nat.cast_le.2 hends) hpower.le).trans hmiddle)
  have hle : ((2 * (4 * hiddenBit - 1) : Nat) : ℚ) ≤ (4 * m + 2 : Nat) :=
    le_of_mul_le_mul_right (hmiddle.trans heq.ge) hpower
  have hodd : 2 * (4 * hiddenBit - 1) ≤ 4 * m + 2 := Nat.cast_le.1 hle
  -- the ends meet only at the greatest mantissa, which is odd
  unfold hiddenBit at *
  omega

/-- **A number rounds to one double at most.** -/
theorem within_unique (hp : Proper m e) (hp' : Proper m' e') (h : Within m e q)
    (h' : Within m' e' q) : m = m' ∧ e = e' := by
  rcases lt_trichotomy e e' with hlt | rfl | hlt
  · exact (not_within_of_exponent_lt hp hp' hlt h h').elim
  · rcases lt_trichotomy m m' with hlt | rfl | hlt
    · exact (not_within_of_lt hlt h h').elim
    · exact ⟨rfl, rfl⟩
    · exact (not_within_of_lt hlt h' h).elim
  · exact (not_within_of_exponent_lt hp' hp hlt h' h).elim

/-! ## What the printer settles for -/

/-- Every decimal that a grid yields reads back. -/
theorem readsBack_of_onGrid? {g : Int} (h : onGrid? tie m e g = some d) :
    readsBack m e d = true := by
  unfold onGrid? at h
  dsimp only at h
  split at h
  · rename_i hlow hhigh
    split at h
    · exact Option.some.inj h ▸ hlow
    · exact Option.some.inj h ▸ hhigh
    -- a tie goes to one of the two, which both read back
    · obtain rfl := Option.some.inj h
      split
      · exact hhigh
      · split
        · exact hlow
        · exact hhigh
  · rename_i hlow _
    exact Option.some.inj h ▸ hlow
  · rename_i _ hhigh
    exact Option.some.inj h ▸ hhigh
  · cases h

/-- Moving zeros into the exponent changes nothing. -/
theorem value_stripZeros (n : Nat) (d : Scaled) : (stripZeros n d).value = d.value := by
  induction n generalizing d with
  | zero => rfl
  | succ n ih =>
    rw [stripZeros]
    split
    · rename_i hzero
      rw [ih]
      have hdigits : d.digits = 10 * (d.digits / 10) := by omega
      have hcast : (d.digits : ℚ) = 10 * (d.digits / 10 : Nat) := by exact_mod_cast hdigits
      change ((d.digits / 10 : Nat) : ℚ) * 10 ^ (d.exponent + 1) = d.digits * 10 ^ d.exponent
      rw [hcast, zpow_add_one₀ (by norm_num)]
      ring
    · rfl

/-- The exact value of a double, which stands in for what no grid yields. -/
theorem value_exact (m : Nat) (e : Int) :
    Scaled.value ⟨(m <<< e.toNat) * Nat.pow 5 (-e).toNat, min e 0⟩ = m * 2 ^ e := by
  have hmin : min e 0 = -((-e).toNat : Int) := by omega
  have hten : (10 : ℚ) ^ (-e).toNat = 5 ^ (-e).toNat * 2 ^ (-e).toNat := by
    rw [← mul_pow]
    norm_num
  change (((m <<< e.toNat) * Nat.pow 5 (-e).toNat : Nat) : ℚ) * 10 ^ min e 0 = _
  rw [hmin, zpow_neg, zpow_natCast, hten, zpow_eq_div (b := 2) (by norm_num) e, Nat.shiftLeft_eq]
  push_cast [Nat.pow_eq]
  field_simp

/-- **The digits of a double read back to it.** -/
theorem within_shortest (tie : Tie) (e : Int) (hm : m ≠ 0) :
    Within m e (shortest tie m e).value := by
  unfold shortest
  dsimp only
  rw [value_stripZeros]
  cases hfound : (List.range 17).findSome? fun (i : Nat) =>
      onGrid? tie m e (wholeDigits m e - 1 - (i : Int)) with
  | none =>
    rw [Option.getD_none, value_exact]
    exact within_self hm
  | some d =>
    obtain ⟨i, -, hgrid⟩ := List.exists_of_findSome?_eq_some hfound
    exact readsBack_iff.1 (readsBack_of_onGrid? hgrid)

/-- **No two doubles have the same digits.** -/
theorem shortest_unique {tie' : Tie} (hp : Proper m e) (hp' : Proper m' e') (hm : m ≠ 0)
    (hm' : m' ≠ 0) (h : (shortest tie m e).value = (shortest tie' m' e').value) :
    m = m' ∧ e = e' :=
  within_unique hp hp' (within_shortest tie e hm) (h ▸ within_shortest tie' e' hm')

end EntityBase.Decimal
