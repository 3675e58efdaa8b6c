import EntityBase.Proofs.Decimal.Interval
import EntityBase.Proofs.Token.Number
import Mathlib.Data.List.TakeWhile
import Mathlib.Tactic.NormNum

/-!
# The text of a double — which double it was

A text of digits, a point and an exponent stands for a number, `denoted`, and
the text of a decimal stands for the decimal (`denoted_unsigned`), wherever its
layout puts the point. So the text of a double tells its sign and the digits
that read back to it, and with these the double: `text_injective`. Nothing is
said here of what a reader makes of the text.
-/

namespace EntityBase

namespace Binary64

variable {x y : Float} {m : Nat} {e : Int}

/-! ## The fields of a double -/

/-- The exponent field of a double, read off its bits. -/
theorem exponentField_eq (x : Float) :
    ((x.toBits >>> 52) &&& 0x7FF).toNat = x.toBits.toNat / 2 ^ 52 % 2 ^ 11 := by
  rw [UInt64.toNat_and, UInt64.toNat_shiftRight, Nat.shiftRight_eq_div_pow]
  exact Nat.and_two_pow_sub_one_eq_mod _ 11

/-- The fraction field of a double, read off its bits. -/
theorem fractionField_eq (x : Float) :
    (x.toBits &&& 0xFFFFFFFFFFFFF).toNat = x.toBits.toNat % 2 ^ 52 := by
  rw [UInt64.toNat_and]
  exact Nat.and_two_pow_sub_one_eq_mod _ 52

theorem isNegative_iff (x : Float) : isNegative x = true ↔ x.toBits.toNat / 2 ^ 63 = 1 := by
  unfold isNegative
  rw [beq_iff_eq, ← UInt64.toNat_inj, UInt64.toNat_shiftRight, Nat.shiftRight_eq_div_pow]
  rfl

/-- What the bits of a finite double are. -/
theorem magnitude_eq_finite_iff : magnitude x = .finite m e ↔
    (x.toBits.toNat / 2 ^ 52 % 2 ^ 11 = 0 ∧ m = x.toBits.toNat % 2 ^ 52 ∧ e = -1074) ∨
    (x.toBits.toNat / 2 ^ 52 % 2 ^ 11 ≠ 0 ∧ x.toBits.toNat / 2 ^ 52 % 2 ^ 11 ≠ 0x7FF ∧
      m = hiddenBit + x.toBits.toNat % 2 ^ 52 ∧
      e = (x.toBits.toNat / 2 ^ 52 % 2 ^ 11 : Nat) - 1075) := by
  unfold magnitude
  rw [exponentField_eq, fractionField_eq]
  dsimp only
  split
  · rename_i htop
    rw [htop]
    split <;> simp
  · rename_i htop
    split
    · rename_i hzero
      simp only [Magnitude.finite.injEq, hzero, true_and, ne_eq, not_true, false_and, or_false]
      exact and_congr eq_comm eq_comm
    · rename_i hzero
      simp only [Magnitude.finite.injEq, hzero, htop, false_and, ne_eq, not_false_iff, true_and,
        false_or]
      exact and_congr eq_comm eq_comm

/-- A finite double has a mantissa and an exponent that doubles have. -/
theorem proper_of_magnitude (h : magnitude x = .finite m e) : Decimal.Proper m e := by
  have hfraction : x.toBits.toNat % 2 ^ 52 < 2 ^ 52 := Nat.mod_lt _ (by decide)
  have hhidden : hiddenBit = 2 ^ 52 := rfl
  rcases magnitude_eq_finite_iff.1 h with ⟨-, rfl, rfl⟩ | ⟨hzero, -, rfl, rfl⟩
  · exact ⟨by omega, by omega, Or.inr rfl⟩
  · exact ⟨by omega, by omega, Or.inl (by omega)⟩

/-- **A sign, a mantissa and an exponent belong to one double.** -/
theorem eq_of_magnitude (hsign : isNegative x = isNegative y) (hx : magnitude x = .finite m e)
    (hy : magnitude y = .finite m e) : x = y := by
  have hhidden : hiddenBit = 2 ^ 52 := rfl
  have hboundx := x.toBits.toNat_lt
  have hboundy := y.toBits.toNat_lt
  have hsigns : x.toBits.toNat / 2 ^ 63 = 1 ↔ y.toBits.toNat / 2 ^ 63 = 1 := by
    rw [← isNegative_iff, ← isNegative_iff, hsign]
  have hbits : x.toBits.toNat = y.toBits.toNat := by
    rcases magnitude_eq_finite_iff.1 hx with ⟨_, _, _⟩ | ⟨_, _, _, _⟩ <;>
      rcases magnitude_eq_finite_iff.1 hy with ⟨_, _, _⟩ | ⟨_, _, _, _⟩ <;> omega
  obtain ⟨⟨bits, valid⟩⟩ := x
  obtain ⟨⟨bits', valid'⟩⟩ := y
  obtain rfl : bits = bits' := UInt64.toNat_inj.1 hbits
  rfl

end Binary64

namespace Decimal

open Binary64

variable {layout : Layout} {x y : Float}

/-! ## What a text stands for -/

/-- The number that digits with a point among them stand for. -/
def pointed (text : List Char) : ℚ :=
  let whole := text.takeWhile (· ≠ '.')
  let fraction := (text.dropWhile (· ≠ '.')).tail
  Nat.ofDigitChars 10 (whole ++ fraction) 0 * (10 : ℚ) ^ (-(fraction.length : Int))

/-- **The number that a text stands for**: digits with a point among them, times the power
of ten that an exponent says. -/
def denoted (text : List Char) : ℚ :=
  pointed (text.takeWhile (· ≠ 'e')) *
    (10 : ℚ) ^ (Lexer.exponent? (text.dropWhile (· ≠ 'e'))).getD 0

theorem takeWhile_ne_append {c : Char} {l rest : List Char} (h : c ∉ l) :
    (l ++ c :: rest).takeWhile (· ≠ c) = l := by
  rw [List.takeWhile_append_of_pos fun a ha => decide_eq_true (ne_of_mem_of_not_mem ha h),
    List.takeWhile_cons_of_neg (by simp), List.append_nil]

theorem dropWhile_ne_append {c : Char} {l rest : List Char} (h : c ∉ l) :
    (l ++ c :: rest).dropWhile (· ≠ c) = c :: rest := by
  rw [List.dropWhile_append_of_pos fun a ha => decide_eq_true (ne_of_mem_of_not_mem ha h),
    List.dropWhile_cons_of_neg (by simp)]

theorem takeWhile_ne_self {c : Char} {l : List Char} (h : c ∉ l) :
    l.takeWhile (· ≠ c) = l :=
  List.takeWhile_eq_self_iff.2 fun _ ha => decide_eq_true (ne_of_mem_of_not_mem ha h)

theorem dropWhile_ne_self {c : Char} {l : List Char} (h : c ∉ l) :
    l.dropWhile (· ≠ c) = [] :=
  List.dropWhile_eq_nil_iff.2 fun _ ha => decide_eq_true (ne_of_mem_of_not_mem ha h)

/-- Digits in front of a point and behind it are the digits of one number. -/
theorem pointed_point {whole : List Char} (h : '.' ∉ whole) (fraction : List Char) :
    pointed (whole ++ '.' :: fraction)
      = Nat.ofDigitChars 10 (whole ++ fraction) 0 * (10 : ℚ) ^ (-(fraction.length : Int)) := by
  unfold pointed
  dsimp only
  rw [takeWhile_ne_append h, dropWhile_ne_append h]
  rfl

/-- Digits without a point are a whole number. -/
theorem pointed_whole {whole : List Char} (h : '.' ∉ whole) :
    pointed whole = Nat.ofDigitChars 10 whole 0 := by
  unfold pointed
  dsimp only
  rw [takeWhile_ne_self h, dropWhile_ne_self h]
  simp

theorem denoted_of_no_exponent {text : List Char} (h : 'e' ∉ text) :
    denoted text = pointed text := by
  unfold denoted
  rw [takeWhile_ne_self h, dropWhile_ne_self h]
  simp [Lexer.exponent?]

theorem denoted_exponent {mantissa tail : List Char} {k : Int} (h : 'e' ∉ mantissa)
    (hk : Lexer.exponent? ('e' :: tail) = some k) :
    denoted (mantissa ++ 'e' :: tail) = pointed mantissa * (10 : ℚ) ^ k := by
  unfold denoted
  rw [takeWhile_ne_append h, dropWhile_ne_append h, hk]
  rfl

/-! ## The text of a decimal -/

theorem not_mem_toDigits {c : Char} (h : c.isDigit = false) (n : Nat) : c ∉ Nat.toDigits 10 n := by
  intro hc
  have hdigit := Nat.isDigit_of_mem_toDigits (by decide) (by decide) hc
  rw [h] at hdigit
  cases hdigit

/-- Zeros in front of digits change nothing. -/
theorem ofDigitChars_leading (n k : Nat) :
    Nat.ofDigitChars 10 (List.replicate k '0' ++ Nat.toDigits 10 n) 0 = n := by
  rw [Nat.ofDigitChars_append, Nat.ofDigitChars_replicate_zero, Nat.mul_zero,
    Nat.ofDigitChars_ten_toDigits]

/-- Zeros behind digits are so many powers of ten. -/
theorem ofDigitChars_trailing (n k : Nat) :
    Nat.ofDigitChars 10 (Nat.toDigits 10 n ++ List.replicate k '0') 0 = 10 ^ k * n := by
  rw [Nat.ofDigitChars_append, Nat.ofDigitChars_replicate_zero, Nat.ofDigitChars_ten_toDigits]

/-- What the digits are made of stands in their layout, and zeros and a point. -/
theorem mem_positional {c : Char} {digits : List Char} {k : Int} (h : c ∈ positional digits k) :
    c ∈ digits ∨ c = '0' ∨ c = '.' := by
  unfold positional at h
  split at h
  · simp only [List.mem_cons, List.mem_append, List.mem_replicate] at h
    tauto
  · split at h
    · simp only [List.mem_cons, List.mem_append, List.mem_replicate, List.not_mem_nil] at h
      tauto
    · rw [List.mem_append, List.mem_cons] at h
      rcases h with h | rfl | h
      · exact Or.inl (List.mem_of_mem_take h)
      · exact Or.inr (Or.inr rfl)
      · exact Or.inl (List.mem_of_mem_drop h)

/-- **Zeros between the point and the digits** are so many negative powers of ten. -/
theorem pointed_behind (n k : Nat) :
    pointed ('0' :: '.' :: (List.replicate k '0' ++ Nat.toDigits 10 n))
      = n * (10 : ℚ) ^ (-((k + (Nat.toDigits 10 n).length : Nat) : Int)) := by
  have hzero : Nat.ofDigitChars 10 ['0'] 0 = 0 := by decide
  have hwhole : '.' ∉ ['0'] := by decide
  have hpoint := pointed_point hwhole (List.replicate k '0' ++ Nat.toDigits 10 n)
  rw [Nat.ofDigitChars_append, hzero, ofDigitChars_leading, List.length_append,
    List.length_replicate] at hpoint
  exact hpoint

/-- **Zeros between the digits and the point** are so many powers of ten. -/
theorem pointed_before (n k : Nat) :
    pointed (Nat.toDigits 10 n ++ List.replicate k '0' ++ ['.', '0']) = n * (10 : ℚ) ^ k := by
  have hwhole : '.' ∉ Nat.toDigits 10 n ++ List.replicate k '0' := by
    rw [List.mem_append, List.mem_replicate]
    rintro (h | ⟨-, h⟩)
    · exact not_mem_toDigits (by decide) n h
    · cases h
  have hvalue := ofDigitChars_trailing n (k + 1)
  rw [List.replicate_succ', ← List.append_assoc] at hvalue
  rw [pointed_point hwhole, hvalue, List.length_singleton]
  push_cast
  rw [zpow_neg_one]
  ring

/-- **The point among the digits** is a negative power of ten for each digit behind it. -/
theorem pointed_among (n k : Nat) :
    pointed ((Nat.toDigits 10 n).take k ++ '.' :: (Nat.toDigits 10 n).drop k)
      = n * (10 : ℚ) ^ (-(((Nat.toDigits 10 n).length - k : Nat) : Int)) := by
  have hwhole : '.' ∉ (Nat.toDigits 10 n).take k :=
    fun h => not_mem_toDigits (by decide) n (List.mem_of_mem_take h)
  rw [pointed_point hwhole, List.take_append_drop, Nat.ofDigitChars_ten_toDigits,
    List.length_drop]

/-- With the point in place, the digits stand for the number that they are with an
exponent. -/
theorem pointed_positional (d : Scaled) {k : Int}
    (hk : k = (Nat.toDigits 10 d.digits).length + d.exponent) :
    pointed (positional (Nat.toDigits 10 d.digits) k) = d.value := by
  unfold positional Scaled.value
  split
  · rename_i hbehind
    rw [pointed_behind]
    congr 2
    omega
  · rename_i hbehind
    split
    · rename_i hbefore
      have hexponent : d.exponent
          = ((k.toNat - (Nat.toDigits 10 d.digits).length : Nat) : Int) := by omega
      rw [pointed_before, hexponent, zpow_natCast]
    · rename_i hamong
      rw [pointed_among]
      congr 2
      omega

theorem toList_toString (k : Int) : (toString k).toList = Json.renderInt k := by
  rw [Int.toString_eq_repr, Int.repr_eq_if]
  unfold Json.renderInt
  rcases Decidable.em (k < 0) with hk | hk
  · rw [if_neg (by omega), if_pos hk, String.toList_append, Nat.toList_repr,
      show (-k).toNat = k.natAbs by omega]
    rfl
  · rw [if_pos (by omega), if_neg hk, Nat.toList_repr, show k.toNat = k.natAbs by omega]

/-- What stands before a positive exponent is nothing or a plus sign. -/
def Layout.Legible (layout : Layout) : Prop := layout.plus = "" ∨ layout.plus = "+"

/-- An exponent is read as it was written. -/
theorem exponent?_written (hlayout : layout.Legible) (k : Int) :
    Lexer.exponent? ('e' :: (if k < 0 then toString k else layout.plus ++ toString k).toList)
      = some k := by
  have hnatural (n : Nat) :
      Lexer.exponent?.natural? (Nat.toDigits 10 n) = some (n : Int) := by
    unfold Lexer.exponent?.natural?
    rw [Lexer.digitsValue?_toDigits, if_neg (by simp)]
    rfl
  unfold Lexer.exponent?
  dsimp only
  rw [if_pos (Or.inl rfl)]
  split_ifs with hk
  · rw [toList_toString, Json.renderInt, if_pos hk]
    simp only [hnatural, Option.map_some, Option.some.injEq]
    omega
  · obtain ⟨c, rest, hdigits, hc⟩ := Lexer.head?_toDigits k.natAbs
    have hvalue := hnatural k.natAbs
    have habs : (k.natAbs : Int) = k := by omega
    rw [String.toList_append, toList_toString, Json.renderInt, if_neg hk]
    rw [habs] at hvalue
    rcases hlayout with hplus | hplus
    -- a digit comes first, and that is no sign
    · rw [hplus, hdigits]
      rw [hdigits] at hvalue
      simp only [String.toList_empty, List.nil_append]
      split
      · rename_i heq
        obtain rfl := (List.cons.inj heq).1
        cases hc
      · rename_i heq
        obtain rfl := (List.cons.inj heq).1
        cases hc
      · exact hvalue
    · rw [hplus]
      exact hvalue

/-- **The text of a decimal stands for the decimal.** -/
theorem denoted_unsigned (hlayout : layout.Legible) (d : Scaled) :
    denoted (layout.unsigned d).toList = d.value := by
  have hletter := not_mem_toDigits (c := 'e') (by decide) d.digits
  unfold Layout.unsigned
  dsimp only
  split
  · have hplain : 'e' ∉ positional (Nat.toDigits 10 d.digits)
        ((Nat.toDigits 10 d.digits).length - 1 + d.exponent + 1) := by
      intro h
      rcases mem_positional h with h | h | h
      · exact hletter h
      · cases h
      · cases h
    rw [String.toList_ofList, denoted_of_no_exponent hplain, pointed_positional d (by omega)]
  · obtain ⟨c, rest, hdigits, -⟩ := Lexer.head?_toDigits d.digits
    have hvalue := pointed_among d.digits 1
    have hpoint := not_mem_toDigits (c := '.') (by decide) d.digits
    have hwhole : pointed (Nat.toDigits 10 d.digits) = d.digits := by
      rw [pointed_whole hpoint, Nat.ofDigitChars_ten_toDigits]
    have hmark : "e".toList = ['e'] := rfl
    rw [hdigits] at hvalue hwhole hletter ⊢
    rw [String.toList_append, String.toList_append, String.toList_ofList, hmark, List.append_assoc,
      List.singleton_append]
    have hexponent := exponent?_written hlayout ((c :: rest).length - 1 + d.exponent)
    -- the point stands behind the first digit, if there is another one
    cases rest with
    | nil =>
      dsimp only
      rw [denoted_exponent hletter hexponent, hwhole, Scaled.value]
      congr 2
      simp
    | cons c' rest =>
      have hmantissa : 'e' ∉ c :: '.' :: c' :: rest := by
        simp only [List.mem_cons, not_or] at hletter ⊢
        exact ⟨hletter.1, by decide, hletter.2⟩
      have hpointed : pointed (c :: '.' :: c' :: rest)
          = d.digits * (10 : ℚ) ^ (-(((c :: c' :: rest).length - 1 : Nat) : Int)) := hvalue
      dsimp only
      rw [denoted_exponent hmantissa hexponent, hpointed, Scaled.value, mul_assoc,
        ← zpow_add₀ (by norm_num)]
      congr 2
      simp only [List.length_cons]
      omega

/-- The text of a decimal starts with a digit. -/
theorem head?_unsigned (layout : Layout) (d : Scaled) :
    ∃ c rest, (layout.unsigned d).toList = c :: rest ∧ c.isDigit = true := by
  obtain ⟨c, rest, hdigits, hc⟩ := Lexer.head?_toDigits d.digits
  unfold Layout.unsigned
  rw [hdigits]
  dsimp only
  split
  · rw [String.toList_ofList]
    unfold positional
    split
    · exact ⟨'0', _, rfl, by decide⟩
    · rename_i hk
      split
      · exact ⟨c, _, rfl, hc⟩
      · obtain ⟨k, hsucc⟩ : ∃ k, ((c :: rest).length - 1 + d.exponent + 1).toNat = k + 1 :=
          ⟨((c :: rest).length - 1 + d.exponent + 1).toNat - 1, by omega⟩
        rw [hsucc]
        exact ⟨c, _, rfl, hc⟩
  · rw [String.toList_append, String.toList_append, String.toList_ofList]
    cases rest with
    | nil => exact ⟨c, _, rfl, hc⟩
    | cons c' rest => exact ⟨c, _, rfl, hc⟩

/-- The characters of the text of a number. -/
def IsNumeric (c : Char) : Prop := c.isDigit = true ∨ c = '.' ∨ c = 'e' ∨ c = '-' ∨ c = '+'

theorem isNumeric_of_mem_toDigits {c : Char} {n : Nat} (h : c ∈ Nat.toDigits 10 n) :
    IsNumeric c :=
  Or.inl (Nat.isDigit_of_mem_toDigits (by decide) (by decide) h)

theorem isNumeric_of_mem_renderInt {c : Char} {k : Int} (h : c ∈ Json.renderInt k) :
    IsNumeric c := by
  unfold Json.renderInt at h
  split at h
  · rcases List.mem_cons.1 h with rfl | h
    · exact Or.inr (Or.inr (Or.inr (Or.inl rfl)))
    · exact isNumeric_of_mem_toDigits h
  · exact isNumeric_of_mem_toDigits h

theorem isNumeric_of_mem_unsigned (hlayout : layout.Legible) {d : Scaled} {c : Char}
    (h : c ∈ (layout.unsigned d).toList) : IsNumeric c := by
  have hpoint : IsNumeric '.' := Or.inr (Or.inl rfl)
  unfold Layout.unsigned at h
  dsimp only at h
  split at h
  · rw [String.toList_ofList] at h
    rcases mem_positional h with h | rfl | rfl
    · exact isNumeric_of_mem_toDigits h
    · exact Or.inl rfl
    · exact hpoint
  · rw [String.toList_append, String.toList_append, String.toList_ofList, List.mem_append,
      List.mem_append] at h
    rcases h with (h | h) | h
    · have hdigit {c : Char} (hc : c ∈ Nat.toDigits 10 d.digits) : IsNumeric c :=
        isNumeric_of_mem_toDigits hc
      split at h
      · cases h
      · rename_i heq
        exact hdigit (heq ▸ h)
      · rename_i heq
        rw [heq] at hdigit
        rcases List.mem_cons.1 h with rfl | h
        · exact hdigit (List.mem_cons_self ..)
        · rcases List.mem_cons.1 h with rfl | h
          · exact hpoint
          · exact hdigit (List.mem_cons_of_mem _ h)
    · obtain rfl := List.mem_singleton.1 h
      exact Or.inr (Or.inr (Or.inl rfl))
    · split at h
      · rw [toList_toString] at h
        exact isNumeric_of_mem_renderInt h
      · rw [String.toList_append, toList_toString, List.mem_append] at h
        rcases h with h | h
        · rcases hlayout with hplus | hplus
          · rw [hplus] at h
            cases h
          · rw [hplus] at h
            exact Or.inr (Or.inr (Or.inr (Or.inr (List.mem_singleton.1 h))))
        · exact isNumeric_of_mem_renderInt h

/-- The text of a decimal has a point or an exponent, which no whole number has. -/
theorem fractional_unsigned (layout : Layout) (d : Scaled) :
    '.' ∈ (layout.unsigned d).toList ∨ 'e' ∈ (layout.unsigned d).toList := by
  unfold Layout.unsigned
  dsimp only
  split
  · refine Or.inl ?_
    rw [String.toList_ofList]
    unfold positional
    split
    · simp
    · split <;> simp
  · refine Or.inr ?_
    have hmark : 'e' ∈ "e".toList := List.mem_singleton.2 rfl
    rw [String.toList_append, String.toList_append]
    exact List.mem_append_left _ (List.mem_append_right _ hmark)

/-! ## The text of a double -/

/-- The size that the text of a double shows: that of the digits that read back to it. -/
def shown (tie : Tie) (m : Nat) (e : Int) : ℚ := if m = 0 then 0 else (shortest tie m e).value

theorem shown_unique {tie : Tie} {m m' : Nat} {e e' : Int} (hp : Proper m e) (hp' : Proper m' e')
    (h : shown tie m e = shown tie m' e') : m = m' ∧ e = e' := by
  have hpos {m : Nat} {e : Int} (hm : m ≠ 0) : 0 < shown tie m e := by
    rw [shown, if_neg hm]
    exact (within_shortest tie e hm).pos hm
  have hzero {m : Nat} {e : Int} (hm : m = 0) : shown tie m e = 0 := if_pos hm
  by_cases hm : m = 0
  · by_cases hm' : m' = 0
    · -- both are zero, whose exponent is the least one
      have hfilled := hp.filled
      have hfilled' := hp'.filled
      unfold hiddenBit at hfilled hfilled'
      omega
    · exact absurd (h.symm.trans (hzero hm)) (hpos hm').ne'
  · by_cases hm' : m' = 0
    · exact absurd (h.trans (hzero hm')) (hpos hm).ne'
    · rw [shown, shown, if_neg hm, if_neg hm'] at h
      exact shortest_unique hp hp' hm hm' h

/-- The text of a size, which the sign of a double stands before. -/
def Layout.sizeText (layout : Layout) (m : Nat) (e : Int) : String :=
  if m = 0 then "0.0" else layout.unsigned (shortest layout.tie m e)

/-- The text of a finite double is a sign and the text of its size. -/
theorem text_of_finite {m : Nat} {e : Int} (layout : Layout) (h : magnitude x = .finite m e) :
    layout.text x = (if isNegative x then "-" else "") ++ layout.sizeText m e := by
  unfold Layout.text Layout.sizeText
  rw [h]
  by_cases hm : m = 0
  · subst hm
    rfl
  · rw [if_neg hm]
    dsimp only
    split
    · rename_i heq
      cases heq
    · rename_i heq
      cases heq
    · rename_i heq
      exact absurd (Magnitude.finite.inj heq).1 hm
    · rename_i heq
      obtain ⟨rfl, rfl⟩ := Magnitude.finite.inj heq
      rfl

theorem head?_sizeText (layout : Layout) (m : Nat) (e : Int) :
    ∃ c rest, (layout.sizeText m e).toList = c :: rest ∧ c.isDigit = true := by
  unfold Layout.sizeText
  split
  · exact ⟨'0', _, rfl, rfl⟩
  · exact head?_unsigned layout _

theorem isNumeric_of_mem_sizeText (hlayout : layout.Legible) {m : Nat} {e : Int} {c : Char}
    (h : c ∈ (layout.sizeText m e).toList) : IsNumeric c := by
  unfold Layout.sizeText at h
  split at h
  · have hzero : ∀ c ∈ "0.0".toList, c.isDigit = true ∨ c = '.' := by simp
    exact (hzero c h).imp id Or.inl
  · exact isNumeric_of_mem_unsigned hlayout h

theorem fractional_sizeText (layout : Layout) (m : Nat) (e : Int) :
    '.' ∈ (layout.sizeText m e).toList ∨ 'e' ∈ (layout.sizeText m e).toList := by
  unfold Layout.sizeText
  split
  · exact Or.inl (by decide)
  · exact fractional_unsigned layout _

/-- The text of a size stands for the size that it shows. -/
theorem denoted_sizeText (hlayout : layout.Legible) (m : Nat) (e : Int) :
    denoted (layout.sizeText m e).toList = shown layout.tie m e := by
  unfold Layout.sizeText shown
  split
  · have htext : denoted "0.0".toList = pointed "0.0".toList :=
      denoted_of_no_exponent (by decide)
    rw [htext]
    simpa using pointed_before 0 0
  · exact denoted_unsigned hlayout _

/-- The sign of a text is that of the double, and the rest of it the text of its size. -/
theorem unsigned_text {m : Nat} {e : Int} (layout : Layout) (h : magnitude x = .finite m e) :
    Lexer.unsigned (layout.text x).toList = (isNegative x, (layout.sizeText m e).toList) := by
  obtain ⟨c, rest, hlist, hc⟩ := head?_sizeText layout m e
  rw [text_of_finite layout h, String.toList_append, hlist]
  cases isNegative x
  · exact Lexer.unsigned_of_isDigit hc
  · rfl

theorem magnitude_of_isFinite (h : isFinite x = true) : ∃ m e, magnitude x = .finite m e := by
  unfold isFinite at h
  split at h
  · rename_i m e hm
    exact ⟨m, e, hm⟩
  · cases h

/-- **A finite double is known by its text.** -/
theorem text_injective (hlayout : layout.Legible) (hx : isFinite x = true) (hy : isFinite y = true)
    (h : layout.text x = layout.text y) : x = y := by
  obtain ⟨m, e, hmx⟩ := magnitude_of_isFinite hx
  obtain ⟨m', e', hmy⟩ := magnitude_of_isFinite hy
  have hparts := unsigned_text layout hmx
  rw [h, unsigned_text layout hmy] at hparts
  obtain ⟨hsign, hsize⟩ := Prod.mk.inj hparts
  have hshown : shown layout.tie m e = shown layout.tie m' e' := by
    rw [← denoted_sizeText hlayout, ← denoted_sizeText hlayout, hsize]
  obtain ⟨rfl, rfl⟩ := shown_unique (proper_of_magnitude hmx) (proper_of_magnitude hmy) hshown
  exact eq_of_magnitude hsign.symm hmx hmy

/-- The text of a finite double has the characters of a number, and a point or an
exponent. -/
theorem isNumeric_of_mem_text (hlayout : layout.Legible) (hx : isFinite x = true) {c : Char}
    (h : c ∈ (layout.text x).toList) : IsNumeric c := by
  obtain ⟨m, e, hm⟩ := magnitude_of_isFinite hx
  rw [text_of_finite layout hm, String.toList_append, List.mem_append] at h
  rcases h with h | h
  · split at h
    · exact Or.inr (Or.inr (Or.inr (Or.inl (List.mem_singleton.1 h))))
    · cases h
  · exact isNumeric_of_mem_sizeText hlayout h

theorem fractional_text (layout : Layout) (hx : isFinite x = true) :
    '.' ∈ (layout.text x).toList ∨ 'e' ∈ (layout.text x).toList := by
  obtain ⟨m, e, hm⟩ := magnitude_of_isFinite hx
  rw [text_of_finite layout hm, String.toList_append]
  exact (fractional_sizeText layout m e).imp (List.mem_append_right _) (List.mem_append_right _)

/-- The text of a finite double is not empty. -/
theorem text_ne_nil (layout : Layout) (hx : isFinite x = true) : (layout.text x).toList ≠ [] := by
  intro hnil
  have hfractional := fractional_text layout hx
  rw [hnil] at hfractional
  rcases hfractional with h | h <;> cases h

end Decimal

end EntityBase
