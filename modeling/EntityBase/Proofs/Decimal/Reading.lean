import EntityBase.Proofs.Decimal.Text

/-!
# The text of a double is read as a double

The layout of a double and the form in which doubles are read are said apart from one
another. They agree: digits, then a point with digits behind it or an exponent or both,
behind a sign or none. So the text of a finite double is read as a double, whatever its
digits are and wherever its point stands (`exists_float?_text`).
-/

namespace EntityBase

namespace Lexer

variable {w : List Char} {negative : Bool} {whole fraction tail : List Char} {k : Int}

/-- Digits in a row, at least one. -/
def Digits (l : List Char) : Prop := l ≠ [] ∧ ∀ c ∈ l, c.isDigit = true

theorem digits_toDigits (n : Nat) : Digits (Nat.toDigits 10 n) :=
  ⟨Nat.toDigits_ne_nil, fun _ hc => Nat.isDigit_of_mem_toDigits (by decide) (by decide) hc⟩

theorem digits_cons {c : Char} (hc : c.isDigit = true) (h : ∀ c ∈ whole, c.isDigit = true) :
    Digits (c :: whole) :=
  ⟨List.cons_ne_nil _ _, List.forall_mem_cons.2 ⟨hc, h⟩⟩

theorem Digits.append (h : Digits whole) (h' : ∀ c ∈ fraction, c.isDigit = true) :
    Digits (whole ++ fraction) :=
  ⟨by simp [h.1], fun c hc => (List.mem_append.1 hc).elim (h.2 c) (h' c)⟩

theorem Digits.exists_value (h : Digits whole) : ∃ n, Json.digitsValue? whole = some n := by
  have hnonempty : whole.isEmpty = false := by simpa using h.1
  have hall : whole.all Char.isDigit = true := List.all_eq_true.2 h.2
  unfold Json.digitsValue?
  rw [hnonempty, hall]
  exact ⟨_, rfl⟩

/-- The digits in front end where something else begins. -/
theorem Digits.span (h : Digits whole) (htail : ∀ c ∈ tail.head?, c.isDigit = false) :
    (whole ++ tail).span Char.isDigit = (whole, tail) := by
  have hnone : tail.takeWhile Char.isDigit = [] ∧ tail.dropWhile Char.isDigit = tail := by
    cases tail with
    | nil => exact ⟨rfl, rfl⟩
    | cons c tail =>
      have hc : ¬ c.isDigit = true := by simp [htail c rfl]
      exact ⟨List.takeWhile_cons_of_neg hc, List.dropWhile_cons_of_neg hc⟩
  rw [List.span_eq_takeWhile_dropWhile, List.takeWhile_append_of_pos h.2,
    List.dropWhile_append_of_pos h.2, hnone.1, hnone.2, List.append_nil]

/-- Digits, a point and digits, and an exponent or none. -/
theorem exists_float?_of_point (hw : unsigned w = (negative, whole ++ '.' :: (fraction ++ tail)))
    (hwhole : Digits whole) (hfraction : Digits fraction)
    (hstop : ∀ c ∈ tail.head?, c.isDigit = false) (htail : exponent? tail = some k) :
    ∃ x, float? w = some x := by
  obtain ⟨n, hn⟩ := (hwhole.append hfraction.2).exists_value
  have hne : whole.isEmpty = false := by simpa using hwhole.1
  have hne' : fraction.isEmpty = false := by simpa using hfraction.1
  have hpoint : ∀ c ∈ ('.' :: (fraction ++ tail)).head?, c.isDigit = false := by simp
  unfold float?
  rw [hw]
  dsimp only
  rw [hwhole.span hpoint]
  dsimp only
  rw [hne, if_neg Bool.false_ne_true]
  split
  · rename_i rest heq
    obtain rfl := (List.cons.inj heq).2
    rw [hfraction.span hstop]
    dsimp only
    rw [hne', if_neg Bool.false_ne_true]
    simp only [Option.bind_eq_bind, Option.bind_some, htail, hn]
    exact ⟨_, rfl⟩
  · rename_i heq
    cases heq
  · rename_i hform _
    exact absurd rfl (hform _)

/-- Digits and an exponent. -/
theorem exists_float?_of_exponent (hw : unsigned w = (negative, whole ++ 'e' :: tail))
    (hwhole : Digits whole) (htail : exponent? ('e' :: tail) = some k) :
    ∃ x, float? w = some x := by
  obtain ⟨n, hn⟩ := hwhole.exists_value
  have hne : whole.isEmpty = false := by simpa using hwhole.1
  have hletter : ∀ c ∈ ('e' :: tail).head?, c.isDigit = false := by simp
  unfold float?
  rw [hw]
  dsimp only
  rw [hwhole.span hletter]
  dsimp only
  rw [hne, if_neg Bool.false_ne_true]
  split
  · rename_i heq
    cases heq
  · rename_i heq
    cases heq
  · simp only [Option.bind_eq_bind, Option.bind_some, htail, List.append_nil, hn]
    exact ⟨_, rfl⟩

end Lexer

namespace Decimal

open Binary64 Lexer

variable {layout : Layout} {x : Float} {w : List Char} {negative : Bool}

/-- With the point in place there are digits on either side of it. -/
theorem exists_positional (d : Nat) (k : Int) :
    ∃ whole fraction, positional (Nat.toDigits 10 d) k = whole ++ '.' :: fraction ∧
      Digits whole ∧ Digits fraction := by
  have hdigits := digits_toDigits d
  have hzeros {n : Nat} : ∀ c ∈ List.replicate n '0', c.isDigit = true := by
    intro c hc
    rw [List.eq_of_mem_replicate hc]
    rfl
  unfold positional
  split
  · exact ⟨['0'], _, rfl, digits_cons rfl (by simp),
      by simp [hdigits.1], fun c hc => (List.mem_append.1 hc).elim (hzeros c) (hdigits.2 c)⟩
  · rename_i hk
    split
    · exact ⟨_, ['0'], rfl, hdigits.append hzeros, digits_cons rfl (by simp)⟩
    · rename_i hlength
      refine ⟨_, _, rfl, ⟨?_, fun c hc => hdigits.2 c (List.mem_of_mem_take hc)⟩,
        ⟨?_, fun c hc => hdigits.2 c (List.mem_of_mem_drop hc)⟩⟩
      · rw [Ne, List.take_eq_nil_iff]
        exact fun h => h.elim (by omega) hdigits.1
      · rw [Ne, List.drop_eq_nil_iff]
        exact hlength

/-- The text of a decimal has one of the two forms, behind whatever sign. -/
theorem exists_float?_unsigned (hlayout : layout.Legible) (d : Scaled)
    (hw : Lexer.unsigned w = (negative, (layout.unsigned d).toList)) :
    ∃ x, float? w = some x := by
  unfold Layout.unsigned at hw
  dsimp only at hw
  split at hw
  · obtain ⟨whole, fraction, hlist, hwhole, hfraction⟩ := exists_positional d.digits
      ((Nat.toDigits 10 d.digits).length - 1 + d.exponent + 1)
    rw [String.toList_ofList, hlist, ← List.append_nil fraction] at hw
    exact exists_float?_of_point hw hwhole hfraction (by simp) rfl
  · obtain ⟨c, rest, hdigits, hc⟩ := Lexer.head?_toDigits d.digits
    have hrest : ∀ c ∈ rest, c.isDigit = true := by
      intro c' hc'
      refine (digits_toDigits d.digits).2 c' ?_
      rw [hdigits]
      exact List.mem_cons_of_mem _ hc'
    have hexponent := exponent?_written hlayout ((Nat.toDigits 10 d.digits).length - 1 + d.exponent)
    have hmark : "e".toList = ['e'] := rfl
    rw [String.toList_append, String.toList_append, String.toList_ofList, hmark, List.append_assoc,
      List.singleton_append] at hw
    rw [hdigits] at hw hexponent
    cases rest with
    | nil => exact exists_float?_of_exponent hw (digits_cons hc hrest) hexponent
    | cons c' rest =>
      exact exists_float?_of_point hw (digits_cons hc (by simp) : Digits [c])
        (⟨List.cons_ne_nil _ _, hrest⟩ : Digits (c' :: rest)) (by simp) hexponent

/-- **The text of a finite double is read as a double.** -/
theorem exists_float?_text (hlayout : layout.Legible) (hx : isFinite x = true) :
    ∃ y, float? (layout.text x).toList = some y := by
  obtain ⟨m, e, hm⟩ := magnitude_of_isFinite hx
  have hparts := unsigned_text layout hm
  unfold Layout.sizeText at hparts
  split at hparts
  · have hzero : Digits ['0'] := digits_cons rfl (by simp)
    have hunsigned : Lexer.unsigned (layout.text x).toList = (_, ['0'] ++ '.' :: (['0'] ++ [])) :=
      hparts
    exact exists_float?_of_point hunsigned hzero hzero (by simp) rfl
  · exact exists_float?_unsigned hlayout _ hparts

end Decimal

end EntityBase
