import EntityBase.Proofs.Token.Spelling
import Mathlib.Data.List.TakeDrop

/-!
# Numbers — spelled as they are written

The decimal text of an integer is read as that integer. A double is read
from any text that `float?` reads it from: such a text is one word, and it
is no integer, because a fraction or an exponent follows its first digits.
-/

namespace EntityBase.Lexer

variable {w : List Char} {c : Char} {x : Float}

theorem toNat_of_isDigit (h : c.isDigit = true) : 48 ≤ c.toNat ∧ c.toNat ≤ 57 := by
  simpa [Char.isDigit, UInt32.le_iff_toNat_le] using h

theorem isWordChar_of_isDigit (h : c.isDigit = true) : isWordChar c = true := by
  have hrange := toNat_of_isDigit h
  obtain ⟨k, hk, rfl⟩ : ∃ k < 10, c = Char.ofNat (48 + k) :=
    ⟨c.toNat - 48, by omega, by rw [show 48 + (c.toNat - 48) = c.toNat by omega, Char.ofNat_toNat]⟩
  -- there are ten of them
  have hall : ∀ k < 10, isWordChar (Char.ofNat (48 + k)) = true := by decide
  exact hall k hk

/-! ## Integers -/

/-- The digits of a number have its value. -/
theorem digitsValue?_toDigits (n : Nat) : Json.digitsValue? (Nat.toDigits 10 n) = some n := by
  unfold Json.digitsValue?
  have hdigits : (Nat.toDigits 10 n).all Char.isDigit = true :=
    List.all_eq_true.2 fun c hc => Nat.isDigit_of_mem_toDigits (by decide) (by decide) hc
  have hempty : (Nat.toDigits 10 n).isEmpty = false := by simp
  have hvalue := @Nat.ofDigitChars_ten_toDigits n
  rw [Nat.ofDigitChars_eq_foldl] at hvalue
  rw [hempty, hdigits]
  exact congrArg some hvalue

theorem isWordChar_of_mem_renderInt {n : Int} (h : c ∈ Json.renderInt n) :
    isWordChar c = true := by
  have hdigit : ∀ c ∈ Nat.toDigits 10 n.natAbs, isWordChar c = true := fun c hc =>
    isWordChar_of_isDigit (Nat.isDigit_of_mem_toDigits (by decide) (by decide) hc)
  unfold Json.renderInt at h
  split at h
  · rcases List.mem_cons.1 h with rfl | h
    · decide
    · exact hdigit c h
  · exact hdigit c h

/-- What a text that starts with a digit or a sign does not start with. -/
theorem head?_ne (h : ∃ c, w.head? = some c ∧ (c = '-' ∨ c.isDigit = true)) :
    ∃ c, w.head? = some c ∧ c ≠ '/' ∧ c ≠ '~' := by
  obtain ⟨c, hc, hform⟩ := h
  refine ⟨c, hc, ?_, ?_⟩ <;> rintro rfl <;> revert hform <;> decide

theorem head?_toDigits (n : Nat) :
    ∃ c rest, Nat.toDigits 10 n = c :: rest ∧ c.isDigit = true := by
  cases h : Nat.toDigits 10 n with
  | nil => exact absurd h Nat.toDigits_ne_nil
  | cons c rest =>
    have hmem : c ∈ Nat.toDigits 10 n := by
      rw [h]
      exact List.mem_cons_self ..
    exact ⟨c, rest, rfl, Nat.isDigit_of_mem_toDigits (by decide) (by decide) hmem⟩

theorem digitsValue?_some {digits : List Char} {n : Nat} (h : Json.digitsValue? digits = some n) :
    digits ≠ [] ∧ ∀ c ∈ digits, c.isDigit = true := by
  unfold Json.digitsValue? at h
  split at h
  · cases h
  · rename_i hform
    simpa using hform

/-- Digits behind a sign or none are read as an integer. -/
theorem integer?_of_unsigned {negative : Bool} {digits : List Char} {n : Nat}
    (hw : unsigned w = (negative, digits)) (hdigits : Json.digitsValue? digits = some n) :
    integer? w = some (if negative = true then -(n : Int) else n) := by
  have hne : digits.isEmpty = false := by simpa using (digitsValue?_some hdigits).1
  unfold integer?
  rw [hw]
  dsimp only
  rw [hne, hdigits]
  rfl

/-- A text is what is left without its sign, or that behind a sign. -/
theorem unsigned_cases {negative : Bool} {body : List Char} (h : unsigned w = (negative, body)) :
    w = body ∨ w = '-' :: body := by
  rw [unsigned.eq_def] at h
  split at h
  · exact Or.inr (by rw [(Prod.mk.inj h).2])
  · exact Or.inl (Prod.mk.inj h).2

/-- A text that starts with a digit has no sign. -/
theorem unsigned_of_isDigit {rest : List Char} (hc : c.isDigit = true) :
    unsigned (c :: rest) = (false, c :: rest) := by
  rw [unsigned.eq_def]
  split
  · rename_i heq
    obtain rfl := (List.cons.inj heq).1
    cases hc
  · rfl

/-- The text of an integer is read as the integer. -/
theorem integer?_renderInt (n : Int) : integer? (Json.renderInt n) = some n := by
  obtain ⟨c, rest, hdigits, hc⟩ := head?_toDigits n.natAbs
  have hvalue := digitsValue?_toDigits n.natAbs
  unfold Json.renderInt
  split
  · have hunsigned : unsigned ('-' :: Nat.toDigits 10 n.natAbs)
        = (true, Nat.toDigits 10 n.natAbs) := rfl
    rw [integer?_of_unsigned hunsigned hvalue]
    simp only [if_true, Option.some.injEq]
    omega
  · rw [hdigits] at hvalue ⊢
    rw [integer?_of_unsigned (unsigned_of_isDigit hc) hvalue]
    simp only [Bool.false_eq_true, if_false, Option.some.injEq]
    omega

theorem ofWord_of_integer? {n : Int} (h : integer? w = some n)
    (hfits : Binary64.fitsInt64 n = true) : ofWord w = some (.int n) := by
  unfold ofWord
  split
  · cases h
  · cases h
  · cases h
  · simp only [h, hfits, if_true]

/-- **An integer of 64 bits** is spelled by its decimal text. -/
theorem spells_renderInt {n : Int} (hfits : Binary64.fitsInt64 n = true) :
    Spells (Json.renderInt n) [.int n] := by
  refine spells_word (List.all_eq_true.2 fun c hc => isWordChar_of_mem_renderInt hc) (head?_ne ?_)
    (ofWord_of_integer? (integer?_renderInt n) hfits)
  obtain ⟨c, rest, hdigits, hc⟩ := head?_toDigits n.natAbs
  unfold Json.renderInt
  split
  · exact ⟨'-', rfl, Or.inl rfl⟩
  · exact ⟨c, by rw [hdigits]; rfl, Or.inr hc⟩

/-! ## Doubles -/

/-- An exponent is made of word characters. -/
theorem isWordChar_of_exponent? {rest : List Char} {e : Int} (h : exponent? rest = some e) :
    ∀ c ∈ rest, isWordChar c = true := by
  have hnatural : ∀ digits e, exponent?.natural? digits = some e →
      ∀ c ∈ digits, isWordChar c = true := by
    intro digits e h c hc
    unfold exponent?.natural? at h
    split at h
    · cases h
    · obtain ⟨n, hn, -⟩ := Option.map_eq_some_iff.1 h
      exact isWordChar_of_isDigit ((digitsValue?_some hn).2 c hc)
  unfold exponent? at h
  split at h
  · intro c hc
    cases hc
  · rename_i letter rest
    split at h
    · rename_i hletter
      have hfirst : isWordChar letter = true := by
        rcases hletter with rfl | rfl <;> decide
      intro c hc
      rcases List.mem_cons.1 hc with rfl | hc
      · exact hfirst
      · split at h
        · rcases List.mem_cons.1 hc with rfl | hc
          · decide
          · exact hnatural _ _ h c hc
        · obtain ⟨n, hn, -⟩ := Option.map_eq_some_iff.1 h
          rcases List.mem_cons.1 hc with rfl | hc
          · decide
          · exact hnatural _ _ hn c hc
        · exact hnatural _ _ h c hc
    · cases h

/-- **The form of a text that is read as a double**: digits, then something
that is no digit. -/
theorem float?_cases (h : float? w = some x) :
    ∃ negative whole rest, unsigned w = (negative, whole ++ rest) ∧ whole ≠ [] ∧
      (∀ c ∈ whole, c.isDigit = true) ∧ (∃ c rest', rest = c :: rest' ∧ c.isDigit = false) ∧
      ∀ c ∈ rest, isWordChar c = true := by
  unfold float? at h
  rcases hunsigned : unsigned w with ⟨negative, text⟩
  rw [hunsigned] at h
  dsimp only at h
  rw [List.span_eq_takeWhile_dropWhile] at h
  dsimp only at h
  split at h
  · cases h
  rename_i hwhole
  have hdigit : ∀ (l : List Char), ∀ c ∈ l.takeWhile Char.isDigit, c.isDigit = true :=
    fun l => List.all_eq_true.1 List.all_takeWhile
  have hstop := List.head?_dropWhile_not Char.isDigit text
  refine ⟨negative, text.takeWhile Char.isDigit, text.dropWhile Char.isDigit,
    by rw [List.takeWhile_append_dropWhile], by simpa using hwhole, hdigit text, ?_⟩
  split at h
  -- a point follows the digits, and digits and an exponent the point
  · rename_i rest hrest
    refine ⟨⟨'.', rest, hrest, rfl⟩, ?_⟩
    split at h
    · cases h
    obtain ⟨parts, hparts, h⟩ := Option.bind_eq_some_iff.1 h
    obtain rfl := Option.some.inj hparts
    obtain ⟨e, he, -⟩ := Option.bind_eq_some_iff.1 h
    rw [List.span_eq_takeWhile_dropWhile] at he
    rw [hrest, ← List.takeWhile_append_dropWhile (p := Char.isDigit) (l := rest)]
    intro c hc
    rcases List.mem_cons.1 hc with rfl | hc
    · decide
    · rcases List.mem_append.1 hc with hc | hc
      · exact isWordChar_of_isDigit (hdigit rest c hc)
      · exact isWordChar_of_exponent? he c hc
  · cases h
  -- no point follows, so an exponent does
  · rename_i hne _ hnil
    obtain ⟨parts, hparts, h⟩ := Option.bind_eq_some_iff.1 h
    obtain rfl := Option.some.inj hparts
    obtain ⟨e, he, -⟩ := Option.bind_eq_some_iff.1 h
    refine ⟨?_, isWordChar_of_exponent? he⟩
    cases hrest : text.dropWhile Char.isDigit with
    | nil => exact absurd hrest hnil
    | cons c rest' =>
      rw [hrest] at hstop
      exact ⟨c, rest', rfl, hstop⟩

/-- A text that is read as a double is no integer. -/
theorem integer?_eq_none_of_float? (h : float? w = some x) : integer? w = none := by
  obtain ⟨negative, whole, rest, hw, -, -, ⟨c, rest', rfl, hc⟩, -⟩ := float?_cases h
  have hdigits : Json.digitsValue? (whole ++ c :: rest') = none := by
    cases hvalue : Json.digitsValue? (whole ++ c :: rest') with
    | none => rfl
    | some n =>
      have := (digitsValue?_some hvalue).2 c (by simp)
      rw [hc] at this
      cases this
  unfold integer?
  rw [hw]
  dsimp only
  rw [hdigits]
  split <;> rfl

theorem ofWord_of_float? (h : float? w = some x) : ofWord w = some (.float x) := by
  unfold ofWord
  split
  · cases h
  · cases h
  · cases h
  -- integers are tried first
  · simp only [integer?_eq_none_of_float? h, h]

/-- **A double** is spelled by every text that is read as it. -/
theorem spells_of_float? (h : float? w = some x) : Spells w [.float x] := by
  obtain ⟨negative, whole, rest, hw, hne, hdigits, -, hrest⟩ := float?_cases h
  have hbody : ∀ c ∈ whole ++ rest, isWordChar c = true := by
    intro c hc
    rcases List.mem_append.1 hc with hc | hc
    · exact isWordChar_of_isDigit (hdigits c hc)
    · exact hrest c hc
  obtain ⟨c, whole', rfl⟩ := List.exists_cons_of_ne_nil hne
  have hfirst : c.isDigit = true := hdigits c (List.mem_cons_self ..)
  refine spells_word (List.all_eq_true.2 ?_) (head?_ne ?_) (ofWord_of_float? h)
  · intro d hd
    rcases unsigned_cases hw with rfl | rfl
    · exact hbody d hd
    · rcases List.mem_cons.1 hd with rfl | hd
      · decide
      · exact hbody d hd
  · rcases unsigned_cases hw with rfl | rfl
    · exact ⟨c, rfl, Or.inr hfirst⟩
    · exact ⟨'-', rfl, Or.inl rfl⟩

end EntityBase.Lexer
