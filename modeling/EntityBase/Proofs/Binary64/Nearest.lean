import EntityBase.Binary64
import Mathlib.Data.Nat.Log
import Mathlib.Order.Compare
import Mathlib.Tactic.Ring

/-!
# The nearest double of an integer

A double has a mantissa of 53 bits. An integer with more bits loses the last ones: it
is rounded in steps of a power of two, to the nearest step, and to an even one from
the middle. `nearest` is the integer that is left. Up to `2 ^ 53` it is the integer
itself, and it keeps the order of integers: two of them may come together, but they
never change places.
-/

namespace EntityBase.Binary64

/-- How many steps of `2 ^ k` are nearest to `n`; from the middle, an even number. -/
def steps (n k : Nat) : Nat :=
  if 2 * (n % 2 ^ k) < 2 ^ k then n / 2 ^ k
  else if 2 ^ k < 2 * (n % 2 ^ k) then n / 2 ^ k + 1
  else n / 2 ^ k + n / 2 ^ k % 2

/-- The number of bits of `n` for which a mantissa has no place. -/
def excess (n : Nat) : Nat := n.log2 - 52

/-- The natural number that is left of `n` in a double. -/
def nearestNat (n : Nat) : Nat := steps n (excess n) * 2 ^ excess n

/-- **The integer that is left of `n` in a double.** -/
def nearest (n : Int) : Int := if n < 0 then -(nearestNat n.natAbs : Int) else nearestNat n.natAbs

variable {n m k : Nat}

/-! ## Steps -/

theorem steps_cases (n k : Nat) :
    (steps n k = n / 2 ^ k ∧ 2 * (n % 2 ^ k) ≤ 2 ^ k) ∨
      (steps n k = n / 2 ^ k + 1 ∧ 2 ^ k ≤ 2 * (n % 2 ^ k)) := by
  unfold steps
  split_ifs <;> omega

theorem le_steps (n k : Nat) : n / 2 ^ k ≤ steps n k := by
  rcases steps_cases n k with ⟨h, -⟩ | ⟨h, -⟩ <;> omega

theorem steps_le (n k : Nat) : steps n k ≤ n / 2 ^ k + 1 := by
  rcases steps_cases n k with ⟨h, -⟩ | ⟨h, -⟩ <;> omega

/-- Where no bit is lost, nothing is rounded. -/
theorem steps_of_mod_eq_zero (h : n % 2 ^ k = 0) : steps n k = n / 2 ^ k := by
  have hpos := Nat.two_pow_pos k
  rw [steps, if_pos (by omega)]

theorem steps_zero (n : Nat) : steps n 0 = n := by
  rw [steps_of_mod_eq_zero (by rw [Nat.pow_zero, Nat.mod_one]), Nat.pow_zero, Nat.div_one]

/-- Zeros at the end make no difference. -/
theorem steps_mul_two_pow (n k j : Nat) : steps (n * 2 ^ j) (k + j) = steps n k := by
  have hpos : 0 < 2 ^ j := Nat.two_pow_pos j
  have hmod : 2 * (n % 2 ^ k * 2 ^ j) = 2 * (n % 2 ^ k) * 2 ^ j := (Nat.mul_assoc ..).symm
  unfold steps
  rw [Nat.pow_add, Nat.mul_div_mul_right _ _ hpos, Nat.mul_mod_mul_right, hmod]
  simp only [Nat.mul_lt_mul_right hpos]

/-- Rounding in steps of one size keeps the order. -/
theorem steps_mono (h : n ≤ m) : steps n k ≤ steps m k := by
  have hquotient : n / 2 ^ k ≤ m / 2 ^ k := Nat.div_le_div_right h
  rcases hquotient.lt_or_eq with hlt | heq
  · exact (steps_le n k).trans (le_trans hlt (le_steps m k))
  · -- with the same full steps, the rests are in order
    have hn := Nat.div_add_mod n (2 ^ k)
    have hm := Nat.div_add_mod m (2 ^ k)
    rw [heq] at hn
    unfold steps
    rw [heq]
    split_ifs <;> omega

/-! ## Natural numbers -/

theorem nearestNat_of_lt (h : n < 2 ^ 53) : nearestNat n = n := by
  have hexcess : excess n = 0 := by
    rcases Nat.eq_zero_or_pos n with rfl | hpos
    · rfl
    · have := (Nat.log2_lt hpos.ne').2 h
      unfold excess
      omega
  rw [nearestNat, hexcess, steps_zero, Nat.pow_zero, Nat.mul_one]

/-- The first 53 bits of a number. -/
theorem full_of_log2 (hm : m ≠ 0) {k : Nat} (hk : m.log2 = 52 + k) :
    2 ^ 52 ≤ m / 2 ^ k ∧ m / 2 ^ k < 2 ^ 53 := by
  have hlow := Nat.log2_self_le hm
  have hhigh := Nat.lt_log2_self (n := m)
  have hpos := Nat.two_pow_pos k
  rw [hk] at hlow hhigh
  constructor
  · rw [Nat.le_div_iff_mul_le hpos, ← Nat.pow_add]
    exact hlow
  · rw [Nat.div_lt_iff_lt_mul hpos, ← Nat.pow_add]
    exact hhigh.trans_le (Nat.pow_le_pow_right (by decide) (by omega))

/-- A number with excess bits has 53 of them in front. -/
theorem full_of_excess (h : 0 < excess n) :
    2 ^ 52 ≤ n / 2 ^ excess n ∧ n / 2 ^ excess n < 2 ^ 53 := by
  have hne : n ≠ 0 := by
    rintro rfl
    exact absurd h (by decide)
  refine full_of_log2 hne ?_
  unfold excess at h ⊢
  omega

/-- What is left of a number stands between the powers of two around it. -/
theorem nearestNat_between (h : 0 < excess n) :
    2 ^ (52 + excess n) ≤ nearestNat n ∧ nearestNat n ≤ 2 ^ (53 + excess n) := by
  obtain ⟨hlow, hhigh⟩ := full_of_excess h
  have hsteps := le_steps n (excess n)
  have hsteps' := steps_le n (excess n)
  unfold nearestNat
  rw [Nat.pow_add, Nat.pow_add]
  exact ⟨Nat.mul_le_mul_right _ (by omega), Nat.mul_le_mul_right _ (by omega)⟩

theorem excess_mono (h : n ≤ m) : excess n ≤ excess m := by
  have hlog : n.log2 ≤ m.log2 := by
    rw [Nat.log2_eq_log_two, Nat.log2_eq_log_two]
    exact Nat.log_mono_right h
  unfold excess
  omega

/-- **Rounding keeps the order of natural numbers.** -/
theorem nearestNat_mono (h : n ≤ m) : nearestNat n ≤ nearestNat m := by
  rcases (excess_mono h).lt_or_eq with hlt | heq
  · obtain ⟨hm, -⟩ := nearestNat_between (n := m) (by omega)
    refine le_trans ?_ hm
    -- the power of two between them
    rcases Nat.eq_zero_or_pos (excess n) with hzero | hpos
    · have hn : n < 2 ^ 53 := by
        rcases Nat.eq_zero_or_pos n with rfl | hpos
        · exact Nat.two_pow_pos _
        · refine (Nat.log2_lt hpos.ne').1 ?_
          unfold excess at hzero
          omega
      rw [nearestNat_of_lt hn]
      exact hn.le.trans (Nat.pow_le_pow_right (by decide) (by omega))
    · exact (nearestNat_between hpos).2.trans (Nat.pow_le_pow_right (by decide) (by omega))
  · unfold nearestNat
    rw [heq]
    exact Nat.mul_le_mul_right _ (steps_mono h)

/-! ## Integers -/

theorem nearest_natCast (n : Nat) : nearest n = nearestNat n := by
  rw [nearest, if_neg (by omega), Int.natAbs_natCast]

theorem nearest_neg (n : Int) : nearest (-n) = -nearest n := by
  have hzero : nearestNat 0 = 0 := by decide
  unfold nearest
  rw [Int.natAbs_neg]
  rcases lt_trichotomy n 0 with h | rfl | h
  · rw [if_neg (by omega), if_pos h, Int.neg_neg]
  · rw [if_neg (by omega), if_neg (by omega), Int.natAbs_zero, hzero]
    rfl
  · rw [if_pos (by omega), if_neg (by omega)]

/-- **An integer of at most 53 bits is left as it is.** -/
theorem nearest_of_le {n : Int} (h : n.natAbs ≤ 2 ^ 53) : nearest n = n := by
  have hnat : nearestNat n.natAbs = n.natAbs := by
    rcases h.lt_or_eq with h | h
    · exact nearestNat_of_lt h
    · rw [h]
      decide
  unfold nearest
  rw [hnat]
  split_ifs <;> omega

/-- **Rounding keeps the order of integers.** -/
theorem nearest_mono {n m : Int} (h : n ≤ m) : nearest n ≤ nearest m := by
  unfold nearest
  split_ifs with hn hm hm
  · have := nearestNat_mono (n := m.natAbs) (m := n.natAbs) (by omega)
    omega
  · omega
  · omega
  · have := nearestNat_mono (n := n.natAbs) (m := m.natAbs) (by omega)
    omega

/-- **What is left compares as the integers do**, unless different ones come together. -/
theorem compare_nearest_iff (a b : Int) :
    compare (nearest a) (nearest b) = compare a b ↔ a = b ∨ nearest a ≠ nearest b := by
  rcases lt_trichotomy a b with h | rfl | h
  · have hle := nearest_mono h.le
    rw [compare_lt_iff_lt.2 h, compare_lt_iff_lt]
    constructor
    · exact fun hlt => .inr hlt.ne
    · rintro (rfl | hne)
      · exact absurd h (lt_irrefl _)
      · exact lt_of_le_of_ne hle hne
  · simp
  · have hle := nearest_mono h.le
    rw [compare_gt_iff_gt.2 h, compare_gt_iff_gt]
    constructor
    · exact fun hlt => .inr (ne_of_gt hlt)
    · rintro (rfl | hne)
      · exact absurd h (lt_irrefl _)
      · exact lt_of_le_of_ne hle hne.symm

end EntityBase.Binary64
