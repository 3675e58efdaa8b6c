import EntityBase.Proofs.Binary64.Nearest
import Mathlib

/-!
# Doubles of integers

A double is packed bits, and its operations unpack it into a sign, a mantissa and an
exponent, round what comes out and pack it again. Of the numbers that integers become,
the mantissa has all of its 53 bits; `Stands` says of such a double, or of a zero, which
integer it is. Integers of 64 bits become the doubles of their nearest integers
(`stands_ofInt`), and doubles of integers compare as these do (`Stands.compare`).
-/

namespace EntityBase.Binary64

open Float.Model Float.Model.UnpackedFloat

variable {m : Nat} {e : Int} {s : Sign} {x y : Float}

/-! ## Rounding a mantissa -/

/-- **Moving a mantissa** to the right by `k` bits: the first bit that it loses, and
whether another one is lost. -/
theorem shiftRight_exact (m k : Nat) :
    ExtendedMantissa.ofMantissaAndAccuracy m .exact >>> k
      = ⟨m / 2 ^ k, decide (2 ^ k ≤ 2 * (m % 2 ^ k)), decide (2 * (m % 2 ^ k) % 2 ^ k ≠ 0)⟩ := by
  induction k with
  | zero =>
    change ExtendedMantissa.mk m false false = _
    simp [Nat.mod_one]
  | succ k ih =>
    have hstep : ExtendedMantissa.ofMantissaAndAccuracy m .exact >>> (k + 1)
        = (ExtendedMantissa.ofMantissaAndAccuracy m .exact >>> k).shiftRightOne := rfl
    have hpos := Nat.two_pow_pos k
    have hrest : m % 2 ^ k < 2 ^ k := Nat.mod_lt _ hpos
    have hbit : m / 2 ^ k % 2 = 0 ∨ m / 2 ^ k % 2 = 1 := Nat.mod_two_eq_zero_or_one _
    -- of the bits behind the new last one, one was the last one before
    have hsmall : 2 * (m % 2 ^ k) % (2 ^ k * 2) = 2 * (m % 2 ^ k) := Nat.mod_eq_of_lt (by omega)
    have hdouble : 2 * (2 ^ k * (m / 2 ^ k % 2)) = 2 ^ k * 2 * (m / 2 ^ k % 2) := by ring
    have hlost : 2 * (m % 2 ^ k) ≠ 0 ↔ 2 ^ k ≤ 2 * (m % 2 ^ k) ∨ 2 * (m % 2 ^ k) % 2 ^ k ≠ 0 := by
      rcases Nat.lt_or_ge (2 * (m % 2 ^ k)) (2 ^ k) with h | h
      · rw [Nat.mod_eq_of_lt h]
        omega
      · omega
    rw [hstep, ih, ExtendedMantissa.shiftRightOne, Nat.mod_pow_succ, Nat.pow_succ,
      Nat.div_div_eq_div_mul, Nat.mul_add, hdouble, Nat.add_mul_mod_self_left, hsmall]
    simp only [ExtendedMantissa.mk.injEq, true_and]
    constructor
    · rw [Bool.eq_iff_iff, bne_iff_ne, decide_eq_true_iff]
      rcases hbit with h | h <;> rw [h] <;> omega
    · rw [Bool.eq_iff_iff, Bool.or_eq_true, decide_eq_true_iff, decide_eq_true_iff,
        decide_eq_true_iff]
      exact hlost.symm

/-- What is left is rounded to the nearest step. -/
theorem roundedMantissa_shiftRight (m k : Nat) :
    (ExtendedMantissa.ofMantissaAndAccuracy m .exact >>> k).roundedMantissa = steps m k := by
  have hrest : m % 2 ^ k < 2 ^ k := Nat.mod_lt _ (Nat.two_pow_pos k)
  rw [shiftRight_exact]
  unfold ExtendedMantissa.roundedMantissa steps
  rcases lt_trichotomy (2 * (m % 2 ^ k)) (2 ^ k) with h | h | h
  · rw [if_pos h, decide_eq_false (by omega : ¬ 2 ^ k ≤ 2 * (m % 2 ^ k))]
    cases decide (2 * (m % 2 ^ k) % 2 ^ k ≠ 0) <;> rfl
  · rw [h, if_neg (lt_irrefl _), if_neg (lt_irrefl _), Nat.mod_self, decide_eq_true (le_refl _)]
    rfl
  · have hmod : 2 * (m % 2 ^ k) % 2 ^ k ≠ 0 := by
      rw [Nat.mod_eq_sub_mod h.le, Nat.mod_eq_of_lt (by omega)]
      omega
    rw [if_neg (by omega), if_pos h, decide_eq_true h.le, decide_eq_true hmod]
    rfl

/-- The exponent of the last of 53 bits. -/
def place (m : Nat) (e : Int) : Int := m.log2 + e - 52

theorem targetExponent_eq (h : -1074 ≤ place m e) :
    Format.binary64.targetExponent (totalExponent m e) = place m e := by
  have hbits : (Format.binary64.mantissaBits : Int) = 53 := rfl
  have hleast : Format.binary64.minExponent = -1074 := rfl
  unfold Format.targetExponent totalExponent
  rw [hbits, hleast]
  unfold place at h ⊢
  omega

/-- Moving a mantissa to a place that is not in front of it. -/
theorem shiftToTargetExponent_exact (hplace : -1074 ≤ place m e) {k : Nat}
    (hk : place m e = e + k) :
    shiftToTargetExponent Format.binary64 m e .exact
      = (ExtendedMantissa.ofMantissaAndAccuracy m .exact >>> k, e + k) := by
  have hshift : (place m e - e).toNat = k := by omega
  unfold shiftToTargetExponent shiftToExponent
  rw [targetExponent_eq hplace]
  dsimp only
  rw [hshift]

theorem log2_eq_of_full (hlow : 2 ^ 52 ≤ m) (hhigh : m < 2 ^ 53) : m.log2 = 52 :=
  (Nat.log2_eq_iff (by omega)).2 ⟨hlow, hhigh⟩

theorem log2_mul_two_pow {n : Nat} (hn : n ≠ 0) (k : Nat) :
    (n * 2 ^ k).log2 = n.log2 + k := by
  have hlow := Nat.log2_self_le hn
  have hhigh := Nat.lt_log2_self (n := n)
  have hpos := Nat.two_pow_pos k
  refine (Nat.log2_eq_iff (Nat.mul_pos (Nat.pos_of_ne_zero hn) hpos).ne').2 ⟨?_, ?_⟩
  · rw [Nat.pow_add]
    exact Nat.mul_le_mul_right _ hlow
  · rw [Nat.add_right_comm, Nat.pow_add]
    exact Nat.mul_lt_mul_of_pos_right hhigh hpos

/-- **Rounding** a number of at least 53 bits leaves its first 53 bits, to the nearest
step of the last of them. The step is twice as wide where the bits run over. -/
theorem roundWithAccuracy_exact (s : Sign) (hm : m ≠ 0) {k : Nat} (hk : m.log2 = 52 + k)
    (he : -1074 ≤ e + k) :
    ∃ (m' j : Nat) (hm' : 0 < m'),
      roundWithAccuracy Format.binary64 s m e .exact = .finite s m' (e + k + j) hm' ∧
      2 ^ 52 ≤ m' ∧ m' < 2 ^ 53 ∧ j ≤ 1 ∧ m' * 2 ^ j = steps m k := by
  have hplace : place m e = e + k := by
    unfold place
    omega
  have hfirst := shiftToTargetExponent_exact (by omega) hplace
  obtain ⟨hlow, hhigh⟩ := full_of_log2 hm hk
  have hle := le_steps m k
  have hge := steps_le m k
  have hround : roundWithAccuracy Format.binary64 s m e .exact
      = let second := shiftToTargetExponent Format.binary64 (steps m k) (e + k) .exact
        if h : second.1.mantissa = 0 then .zero s
        else .finite s second.1.mantissa second.2 (Nat.pos_of_ne_zero h) := by
    unfold roundWithAccuracy
    rw [hfirst]
    dsimp only
    rw [roundedMantissa_shiftRight]
  rcases Nat.lt_or_ge (steps m k) (2 ^ 53) with hlt | hfull
  · have hplace' : place (steps m k) (e + k) = e + k + (0 : Nat) := by
      unfold place
      rw [log2_eq_of_full (by omega) hlt]
      omega
    have hsecond := shiftToTargetExponent_exact (by omega) hplace'
    rw [shiftRight_exact, Nat.pow_zero, Nat.div_one] at hsecond
    refine ⟨steps m k, 0, by omega, ?_, by omega, hlt, by omega, by omega⟩
    rw [hround, hsecond]
    exact dif_neg (by dsimp only; omega)
  · have hcarry : steps m k = 2 ^ 53 := by omega
    have hplace' : place (2 ^ 53) (e + k) = e + k + (1 : Nat) := by
      unfold place
      rw [Nat.log2_two_pow]
      omega
    have hsecond := shiftToTargetExponent_exact (by omega) hplace'
    rw [shiftRight_exact] at hsecond
    refine ⟨2 ^ 52, 1, by decide, ?_, le_refl _, by decide, le_refl _, by rw [hcarry]; rfl⟩
    rw [hround, hcarry, hsecond]
    rfl

/-- A full mantissa with zeros behind it is left as it is. -/
theorem roundWithAccuracy_full (s : Sign) (hm : 0 < m) (hlow : 2 ^ 52 ≤ m) (hhigh : m < 2 ^ 53)
    (k : Nat) (he : -1074 ≤ e + k) :
    roundWithAccuracy Format.binary64 s (m * 2 ^ k) e .exact = .finite s m (e + k) hm := by
  have hpos := Nat.two_pow_pos k
  have hbits : (m * 2 ^ k).log2 = 52 + k := by
    rw [log2_mul_two_pow hm.ne', log2_eq_of_full hlow hhigh]
  obtain ⟨m', j, hm', hround, hlow', -, hj, hvalue⟩ :=
    roundWithAccuracy_exact s (Nat.mul_pos hm hpos).ne' hbits he
  rw [steps_of_mod_eq_zero (Nat.mul_mod_left m _), Nat.mul_div_cancel _ hpos] at hvalue
  -- nothing was rounded, so no bit runs over
  obtain rfl : j = 0 := by
    rcases Nat.le_one_iff_eq_zero_or_eq_one.1 hj with h | rfl
    · exact h
    · omega
  obtain rfl : m' = m := by omega
  rw [hround]
  congr 1
  omega

/-! ## Packing -/

theorem unpack_pack_zero (s : Sign) : (Float.Model.pack (.zero s)).unpack = .zero s :=
  unpack_packedZero

/-- Packed fields with an exponent that is neither the least nor the greatest one. -/
theorem unpack_packComponents (s : Sign) {exponent : BitVec 11} (mantissa : BitVec 52)
    (hlow : exponent ≠ 0#11) (hhigh : exponent ≠ -1#11) :
    ∃ hm, UnpackedFloat.unpack Format.binary64 (packComponents Format.binary64 s exponent mantissa)
      = .finite s (2 ^ 52 + mantissa.toNat) (exponent.toNat - 1075) hm := by
  have hmantissa : (1#1 ++ mantissa).toNat = 2 ^ 52 + mantissa.toNat := by
    rw [BitVec.toNat_append, ← Nat.shiftLeft_add_eq_or_of_lt mantissa.isLt, Nat.shiftLeft_eq]
    rfl
  have hbias : ((Format.binary64.exponentBias : Int) + Format.binary64.mantissaBitsWithoutImplicit)
      = 1075 := rfl
  refine ⟨by omega, ?_⟩
  unfold UnpackedFloat.unpack
  simp only [unpackMantissa_packComponents, unpackExponent_packComponents,
    unpackSign_packComponents, Sign.ofBitVec_toBitVec, hbias, if_neg hlow, if_neg hhigh,
    hmantissa]

/-- **A double with a full mantissa is unpacked as it was packed.** -/
theorem unpack_pack_finite (hm : 0 < m) (hlow : 2 ^ 52 ≤ m) (hhigh : m < 2 ^ 53)
    (he : -1074 ≤ e) (he' : e ≤ 971) :
    (Float.Model.pack (.finite s m e hm)).unpack = .finite s m e hm := by
  obtain ⟨b, hb⟩ : ∃ b : Nat, e + 1075 = b := Int.eq_ofNat_of_zero_le (by omega)
  have hbiased : (e + Format.binary64.exponentBias
      + Format.binary64.mantissaBitsWithoutImplicit).toNat = b := by
    change (e + (1023 : Nat) + (52 : Nat)).toNat = b
    omega
  have hpack : UnpackedFloat.pack Format.binary64 (.finite s m e hm)
      = packComponents Format.binary64 s (BitVec.ofNat 11 b) (BitVec.ofNat 52 m) := by
    unfold UnpackedFloat.pack
    dsimp only
    rw [hbiased, if_neg (by omega), log2_eq_of_full hlow hhigh]
    rfl
  have hexponent : (BitVec.ofNat 11 b).toNat = b := by
    rw [BitVec.toNat_ofNat]
    omega
  have hmantissa : 2 ^ 52 + (BitVec.ofNat 52 m).toNat = m := by
    rw [BitVec.toNat_ofNat]
    omega
  have hleast : BitVec.ofNat 11 b ≠ 0#11 := by
    intro h
    rw [h] at hexponent
    change 0 = b at hexponent
    omega
  have hgreatest : BitVec.ofNat 11 b ≠ -1#11 := by
    intro h
    rw [h] at hexponent
    change 2047 = b at hexponent
    omega
  obtain ⟨hm', hunpack⟩ := unpack_packComponents s (BitVec.ofNat 52 m) hleast hgreatest
  change UnpackedFloat.unpack Format.binary64
    (UnpackedFloat.pack Format.binary64 (.finite s m e hm)) = _
  rw [hpack, hunpack]
  simp only [hmantissa, hexponent]
  congr 1
  omega

/-! ## Doubles that are integers -/

/-- **The integer that a double is.** A zero is zero. Otherwise the mantissa has its 53
bits, and the integer is counted in the last places of the least one of those. -/
inductive Stands (x : Float) : Int → Prop
  | zero {s : Sign} (h : x.toModel.unpack = .zero s) : Stands x 0
  | finite {s : Sign} {m j n : Nat} {hm : 0 < m}
      (h : x.toModel.unpack = .finite s m (j - 52) hm) (hlow : 2 ^ 52 ≤ m) (hhigh : m < 2 ^ 53)
      (hj : j ≤ 1023) (hvalue : m * 2 ^ j = n * 2 ^ 52) : Stands x (s.apply n)

variable {n j : Nat}

/-- A double that was rounded to full bits. -/
theorem stands_pack (hm : 0 < m) (hlow : 2 ^ 52 ≤ m) (hhigh : m < 2 ^ 53) (hj : j ≤ 1023)
    (he : e = j - 52) (hvalue : m * 2 ^ j = n * 2 ^ 52) :
    Stands (.ofModel (Float.Model.pack (.finite s m e hm))) (s.apply n) := by
  subst he
  exact .finite (unpack_pack_finite hm hlow hhigh (by omega) (by omega)) hlow hhigh hj hvalue

/-- A number of at most 53 bits is moved to the front of its mantissa. -/
theorem ofNat_unpacked {d : Nat} (hm : 0 < n * 2 ^ d) (hlow : 2 ^ 52 ≤ n * 2 ^ d)
    (hhigh : n * 2 ^ d < 2 ^ 53) (hd : n.log2 + d = 52) :
    UnpackedFloat.ofNat Format.binary64 n = .finite .positive (n * 2 ^ d) (-d) hm := by
  have hplace : place n 0 = -d := by
    unfold place
    omega
  have hpositive : compare (n : Int) 0 = .gt :=
    compare_gt_iff_gt.2 (Int.natCast_pos.2 (Nat.pos_of_mul_pos_right hm))
  have hshift : (0 - -(d : Int)).toNat = d := by omega
  have hround := roundWithAccuracy_full (e := -d) .positive hm hlow hhigh 0 (by omega)
  rw [Nat.pow_zero, Nat.mul_one] at hround
  unfold UnpackedFloat.ofNat UnpackedFloat.ofInt UnpackedFloat.normalize
  rw [hpositive]
  dsimp only
  unfold UnpackedFloat.round UnpackedFloat.decreaseExponent
  rw [Int.toNat_natCast, targetExponent_eq (by omega), hplace]
  dsimp only
  rw [hshift, Nat.shiftLeft_eq, Int.zero_sub, hround]
  congr 1
  omega

/-- How far that is. -/
theorem exists_front (hpos : 0 < n) (hlt : n < 2 ^ 53) :
    ∃ d, n.log2 + d = 52 ∧ 2 ^ 52 ≤ n * 2 ^ d ∧ n * 2 ^ d < 2 ^ 53 := by
  have hlog : n.log2 < 53 := (Nat.log2_lt hpos.ne').2 hlt
  obtain ⟨d, hd⟩ : ∃ d, n.log2 + d = 52 := ⟨52 - n.log2, by omega⟩
  have hm : 0 < n * 2 ^ d := Nat.mul_pos hpos (Nat.two_pow_pos d)
  have hfull := full_of_log2 (m := n * 2 ^ d) hm.ne' (k := 0)
    (by rw [log2_mul_two_pow hpos.ne', hd])
  rw [Nat.pow_zero, Nat.div_one] at hfull
  exact ⟨d, hd, hfull⟩

theorem unpack_toFloat {d : Nat} (hlt : n < 2 ^ 53) (hm : 0 < n * 2 ^ d) (hlow : 2 ^ 52 ≤ n * 2 ^ d)
    (hhigh : n * 2 ^ d < 2 ^ 53) (hd : n.log2 + d = 52) :
    n.toUInt64.toFloat.toModel.unpack = .finite .positive (n * 2 ^ d) (-d) hm := by
  have hword : n.toUInt64.toNat = n := Nat.mod_eq_of_lt (by omega)
  change (Float.Model.pack (UnpackedFloat.ofNat Format.binary64 n.toUInt64.toNat)).unpack = _
  rw [hword, ofNat_unpacked hm hlow hhigh hd]
  exact unpack_pack_finite hm hlow hhigh (by omega) (by omega)

/-- The double of one. -/
theorem unpack_one : ∃ hm, (Float.ofBits 0x3FF0000000000000).toModel.unpack
    = .finite .positive (2 ^ 52) (-52) hm := ⟨by decide, rfl⟩

theorem mul_finite {s₁ s₂ : Sign} {m₁ m₂ : Nat} {e₁ e₂ : Int} {h₁ : 0 < m₁} {h₂ : 0 < m₂} :
    UnpackedFloat.mul Format.binary64 (.finite s₁ m₁ e₁ h₁) (.finite s₂ m₂ e₂ h₂)
      = roundWithAccuracy Format.binary64 (s₁ * s₂) (m₁ * m₂) (e₁ + e₂) .exact := rfl

/-- **A small number** is a double as it is. It becomes one that is multiplied by one. -/
theorem stands_ofNat_small (hlt : n < 2 ^ 53) : Stands (Float.ofNat n) n := by
  have hproduct : Float.ofNat n = n.toUInt64.toFloat * Float.ofBits 0x3FF0000000000000 := by
    change Float.ofScientific n false 0 = _
    rw [Float.ofScientific, dif_pos ⟨hlt, by decide⟩]
    rfl
  rw [hproduct]
  rcases Nat.eq_zero_or_pos n with rfl | hpos
  · exact .zero (s := .positive) rfl
  obtain ⟨d, hd, hlow, hhigh⟩ := exists_front hpos hlt
  have hm : 0 < n * 2 ^ d := Nat.mul_pos hpos (Nat.two_pow_pos d)
  have hleft := unpack_toFloat hlt hm hlow hhigh hd
  obtain ⟨hone, hright⟩ := unpack_one
  have hround := roundWithAccuracy_full (e := -d + -52) .positive hm hlow hhigh 52 (by omega)
  change Stands (.ofModel (Float.Model.pack (UnpackedFloat.mul Format.binary64 _ _))) _
  rw [hleft, hright, mul_finite]
  change Stands (.ofModel (Float.Model.pack (roundWithAccuracy _ .positive _ _ _))) _
  rw [hround]
  refine stands_pack (s := .positive) (j := 52 - d) hm hlow hhigh (by omega) (by omega) ?_
  rw [Nat.mul_assoc, ← Nat.pow_add, Nat.add_sub_cancel' (by omega)]

/-- A natural number in decimal notation is multiplied by one, too, with zeros behind it. -/
theorem ofScientific_natural (hn : n ≠ 0) : UnpackedFloat.ofScientific Format.binary64 n 0
    = roundWithAccuracy Format.binary64 .positive (n * 2 ^ 53) (-53) .exact := by
  have hgreat : ¬ (0 : Int) > 2 ^ Format.binary64.exponentBits := by decide
  have hleast : ¬ (0 : Int) < -(2 ^ Format.binary64.exponentBits + n.log2) := by
    change ¬ (0 : Int) < -(2048 + n.log2)
    omega
  have hone : 10 ^ (0 : Int).toNat = 1 := rfl
  unfold UnpackedFloat.ofScientific
  rw [dif_neg hn, if_neg hgreat, if_neg hleast, if_pos (le_refl _), mul_finite,
    Nat.shiftLeft_eq, hone, Nat.mul_one]
  rfl

/-- **A great number** is rounded. -/
theorem stands_ofNat_great (hge : 2 ^ 53 ≤ n) (hlt : n < 2 ^ 64) :
    Stands (Float.ofNat n) (nearestNat n) := by
  have hn : n ≠ 0 := by omega
  have hscientific : Float.ofNat n
      = .ofModel (Float.Model.pack (UnpackedFloat.ofScientific Format.binary64 n 0)) := by
    change Float.ofScientific n false 0 = _
    rw [Float.ofScientific, dif_neg (by omega)]
    rfl
  have hlog : 53 ≤ n.log2 ∧ n.log2 < 64 := ⟨(Nat.le_log2 hn).2 hge, (Nat.log2_lt hn).2 hlt⟩
  have hexcess : n.log2 = 52 + excess n := by
    unfold excess
    omega
  have hbits : (n * 2 ^ 53).log2 = 52 + (excess n + 53) := by
    rw [log2_mul_two_pow hn, hexcess, Nat.add_assoc]
  obtain ⟨m, j, hm, hround, hlow, hhigh, hj, hvalue⟩ :=
    roundWithAccuracy_exact (e := -53) .positive (m := n * 2 ^ 53) (by omega) hbits (by omega)
  rw [steps_mul_two_pow] at hvalue
  rw [hscientific, ofScientific_natural hn, hround]
  refine stands_pack (j := 52 + excess n + j) hm hlow hhigh (by omega) (by omega) ?_
  rw [nearestNat, ← hvalue]
  ring

theorem stands_ofNat (hlt : n < 2 ^ 64) : Stands (Float.ofNat n) (nearestNat n) := by
  rcases Nat.lt_or_ge n (2 ^ 53) with h | h
  · rw [nearestNat_of_lt h]
    exact stands_ofNat_small h
  · exact stands_ofNat_great h hlt

theorem apply_neg (s : Sign) (n : Nat) : (-s).apply n = -s.apply n := by
  cases s
  · exact (Int.neg_neg _).symm
  · rfl

/-- The negative of a double is that of its integer. -/
theorem Stands.neg {a : Int} (h : Stands x a) : Stands x.neg (-a) := by
  change Stands (.ofModel (Float.Model.pack x.toModel.unpack.neg)) _
  cases h with
  | zero h =>
    rw [h]
    exact .zero (unpack_pack_zero _)
  | finite h hlow hhigh hj hvalue =>
    rw [h, ← apply_neg]
    exact stands_pack _ hlow hhigh hj rfl hvalue

/-- **An integer of 64 bits becomes the double of its nearest integer.** -/
theorem stands_ofInt {a : Int} (h : fitsInt64 a) : Stands (Float.ofInt a) (nearest a) := by
  have hrange : minInt64 ≤ a ∧ a ≤ maxInt64 := by simpa [fitsInt64] using h
  unfold minInt64 maxInt64 at hrange
  cases a with
  | ofNat n =>
    rw [Int.ofNat_eq_natCast] at hrange ⊢
    rw [nearest_natCast]
    exact stands_ofNat (by omega)
  | negSucc n =>
    have hneg : Int.negSucc n = -((n + 1 : Nat) : Int) := rfl
    rw [hneg, nearest_neg, nearest_natCast]
    exact (stands_ofNat (by omega)).neg

/-! ## Their order -/

/-- Of full mantissas, that with the greater exponent is the greater one. -/
theorem lt_of_exponent_lt {m₁ m₂ j₁ j₂ n₁ n₂ : Nat} (hhigh₁ : m₁ < 2 ^ 53) (hlow₂ : 2 ^ 52 ≤ m₂)
    (hvalue₁ : m₁ * 2 ^ j₁ = n₁ * 2 ^ 52) (hvalue₂ : m₂ * 2 ^ j₂ = n₂ * 2 ^ 52) (h : j₁ < j₂) :
    n₁ < n₂ := by
  refine Nat.lt_of_mul_lt_mul_right (a := 2 ^ 52) ?_
  calc n₁ * 2 ^ 52 = m₁ * 2 ^ j₁ := hvalue₁.symm
    _ < 2 ^ 53 * 2 ^ j₁ := Nat.mul_lt_mul_of_pos_right hhigh₁ (Nat.two_pow_pos j₁)
    _ = 2 ^ 52 * 2 ^ (j₁ + 1) := by ring
    _ ≤ 2 ^ 52 * 2 ^ j₂ := Nat.mul_le_mul_left _ (Nat.pow_le_pow_right (by decide) h)
    _ ≤ m₂ * 2 ^ j₂ := Nat.mul_le_mul_right _ hlow₂
    _ = n₂ * 2 ^ 52 := hvalue₂

theorem compare_map {α β : Type} [LinearOrder α] [LinearOrder β] {f : α → β} (hf : StrictMono f)
    (a b : α) : compare (f a) (f b) = compare a b := by
  rw [← cmp_eq_compare, ← cmp_eq_compare, hf.cmp_map_eq]

theorem compare_mul_two_pow (a b k : Nat) : compare (a * 2 ^ k) (b * 2 ^ k) = compare a b :=
  compare_map (f := (· * 2 ^ k))
    (fun _ _ h => Nat.mul_lt_mul_of_pos_right h (Nat.two_pow_pos k)) a b

theorem compare_natCast (a b : Nat) : compare (a : Int) (b : Int) = compare a b :=
  compare_map (f := Int.ofNat) (fun _ _ h => Int.ofNat_lt.2 h) a b

/-- Full mantissas compare by their exponents and then by themselves. -/
theorem compare_full {m₁ m₂ j₁ j₂ n₁ n₂ : Nat} (hlow₁ : 2 ^ 52 ≤ m₁) (hhigh₁ : m₁ < 2 ^ 53)
    (hlow₂ : 2 ^ 52 ≤ m₂) (hhigh₂ : m₂ < 2 ^ 53) (hvalue₁ : m₁ * 2 ^ j₁ = n₁ * 2 ^ 52)
    (hvalue₂ : m₂ * 2 ^ j₂ = n₂ * 2 ^ 52) :
    (compare ((j₁ : Int) - 52) ((j₂ : Int) - 52)).then (compare m₁ m₂) = compare n₁ n₂ := by
  rcases lt_trichotomy j₁ j₂ with h | rfl | h
  · rw [compare_lt_iff_lt.2 (by omega : (j₁ : Int) - 52 < j₂ - 52),
      compare_lt_iff_lt.2 (lt_of_exponent_lt hhigh₁ hlow₂ hvalue₁ hvalue₂ h)]
    rfl
  · rw [compare_eq_iff_eq.2 rfl, ← compare_mul_two_pow n₁ n₂ 52, ← hvalue₁, ← hvalue₂,
      compare_mul_two_pow]
    rfl
  · rw [compare_gt_iff_gt.2 (by omega : (j₂ : Int) - 52 < j₁ - 52),
      compare_gt_iff_gt.2 (lt_of_exponent_lt hhigh₂ hlow₁ hvalue₂ hvalue₁ h)]
    rfl

theorem compare_neg (a b : Int) : compare (-a) (-b) = (compare a b).swap := by
  have hanti : StrictAnti (Neg.neg : Int → Int) := fun _ _ h => Int.neg_lt_neg h
  rw [← cmp_eq_compare, ← cmp_eq_compare, cmp_swap, hanti.cmp_map_eq]

theorem pos_of_full {m j n : Nat} (hlow : 2 ^ 52 ≤ m) (hvalue : m * 2 ^ j = n * 2 ^ 52) :
    0 < n := by
  refine Nat.pos_of_mul_pos_right (b := 2 ^ 52) ?_
  rw [← hvalue]
  exact Nat.mul_pos (by omega) (Nat.two_pow_pos j)

/-- **Doubles of integers compare as the integers do.** -/
theorem Stands.compare {a b : Int} (hx : Stands x a) (hy : Stands y b) :
    x.toModel.compare y.toModel = some (compare a b) := by
  change x.toModel.unpack.compare y.toModel.unpack = _
  have hneg {n : Nat} (h : 0 < n) : Sign.negative.apply n < 0 := by
    change -(n : Int) < 0
    omega
  have hpos {n : Nat} (h : 0 < n) : 0 < Sign.positive.apply n := by
    change 0 < (n : Int)
    omega
  cases hx with
  | zero hx =>
    cases hy with
    | zero hy =>
      rw [hx, hy]
      rfl
    | @finite s _ _ n _ hy hlow hhigh hj hvalue =>
      have hn := pos_of_full hlow hvalue
      rw [hx, hy]
      cases s
      · exact congrArg some (compare_gt_iff_gt.2 (hneg hn)).symm
      · exact congrArg some (compare_lt_iff_lt.2 (hpos hn)).symm
  | @finite s m _ n _ hx hlow hhigh hj hvalue =>
    have hn := pos_of_full hlow hvalue
    cases hy with
    | zero hy =>
      rw [hx, hy]
      cases s
      · exact congrArg some (compare_lt_iff_lt.2 (hneg hn)).symm
      · exact congrArg some (compare_gt_iff_gt.2 (hpos hn)).symm
    | @finite s' m' _ n' _ hy hlow' hhigh' hj' hvalue' =>
      have hn' := pos_of_full hlow' hvalue'
      have hfull := compare_full hlow hhigh hlow' hhigh' hvalue hvalue'
      rw [hx, hy]
      cases s <;> cases s'
      · refine congrArg some ?_
        rw [hfull]
        exact ((compare_neg n n').trans (congrArg _ (compare_natCast n n'))).symm
      · exact congrArg some (compare_lt_iff_lt.2 ((hneg hn).trans (hpos hn'))).symm
      · exact congrArg some (compare_gt_iff_gt.2 ((hneg hn').trans (hpos hn))).symm
      · refine congrArg some ?_
        rw [hfull]
        exact (compare_natCast n n').symm

end EntityBase.Binary64
