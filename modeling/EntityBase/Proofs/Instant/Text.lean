import EntityBase.Instant.Reader
import EntityBase.Proofs.Decimal.Text

/-!
# The text of an instant, read again

A text that is read as an instant names a date and a time of day (`Valid`), also where it
gives the time of another zone. The text of an instant has the strict form, as long as its
year has four digits, and is read as the instant down to the millisecond: what is below is
not written (`parse?_millisText`).
-/

namespace EntityBase

namespace Text

/-- A text without blanks at either end is left as it is. -/
theorem trim_eq_self {s : List Char} (hhead : ∀ c ∈ s.head?, isBlank c = false)
    (hlast : ∀ c ∈ s.getLast?, isBlank c = false) : trim s = s := by
  have hstart : ∀ s : List Char, (∀ c ∈ s.head?, isBlank c = false) → trimStart s = s := by
    intro s hs
    cases s with
    | nil => rfl
    | cons c s => exact List.dropWhile_cons_of_neg (by rw [hs c rfl]; exact Bool.false_ne_true)
  rw [trim, hstart s hhead, hstart, List.reverse_reverse]
  rwa [List.head?_reverse]

theorem isBlank_of_isDigit {c : Char} (h : c.isDigit = true) : isBlank c = false := by
  have hword := Lexer.isWordChar_of_isDigit h
  unfold Lexer.isWordChar at hword
  simp only [Bool.and_eq_true, Bool.not_eq_true', and_assoc] at hword
  exact hword.1

end Text

namespace Instant

variable {t : Instant} {least most width n : Nat} {s digits rest : List Char} {text : String}

/-- Whether the fields of an instant are a date, a time of day and a part of a second. -/
structure Valid (t : Instant) : Prop where
  date : isDate t.year t.month t.day = true
  time : isTime t.hour t.minute t.second = true
  fraction : t.nanosecond < 10 ^ 9

/-! ## What is read -/

theorem ofDigitChars_lt (h : ∀ c ∈ digits, c.isDigit = true) :
    Nat.ofDigitChars 10 digits 0 < 10 ^ digits.length := by
  induction digits with
  | nil => decide
  | cons c digits ih =>
    have hrest := ih fun d hd => h d (List.mem_cons_of_mem c hd)
    have hfirst : c.toNat - '0'.toNat ≤ 9 :=
      Nat.sub_le_of_le_add (Lexer.toNat_of_isDigit (h c (List.mem_cons_self ..))).2
    rw [Nat.ofDigitChars_cons, Nat.ofDigitChars_eq_ofDigitChars_zero, Nat.mul_zero, Nat.zero_add,
      List.length_cons]
    calc 10 ^ digits.length * (c.toNat - '0'.toNat) + Nat.ofDigitChars 10 digits 0
        < 10 ^ digits.length * (c.toNat - '0'.toNat) + 10 ^ digits.length :=
          Nat.add_lt_add_left hrest _
      _ = 10 ^ digits.length * (c.toNat - '0'.toNat + 1) := rfl
      _ ≤ 10 ^ digits.length * 10 := Nat.mul_le_mul_left _ (Nat.succ_le_succ hfirst)
      _ = 10 ^ (digits.length + 1) := rfl

/-- What is read as a number is the digits at the front. -/
theorem digits?_eq_some (h : digits? least most s = some (n, rest)) :
    ∃ digits, s = digits ++ rest ∧ digits.length ≤ most ∧ n < 10 ^ digits.length := by
  unfold digits? at h
  dsimp only at h
  split at h
  · cases h
  · obtain ⟨rfl, rfl⟩ := Prod.mk.inj (Option.some.inj h)
    have hfront : (s.take most).takeWhile Char.isDigit <+: s.take most := List.takeWhile_prefix _
    refine ⟨(s.take most).takeWhile Char.isDigit, ?_, ?_, ?_⟩
    · exact (List.prefix_iff_eq_append.1 (hfront.trans (List.take_prefix ..))).symm
    · exact hfront.length_le.trans (List.length_take_le ..)
    · rw [← Nat.ofDigitChars_eq_foldl]
      exact ofDigitChars_lt fun c hc => List.all_eq_true.1 List.all_takeWhile c hc

theorem lt_of_digits? (h : digits? least most s = some (n, rest)) : n < 10 ^ most := by
  obtain ⟨digits, -, hlength, hn⟩ := digits?_eq_some h
  exact hn.trans_le (Nat.pow_le_pow_right (by decide) hlength)

/-- A fraction is less than a second. -/
theorem fraction?_lt (h : fraction? s = some (n, rest)) : n < 10 ^ 9 := by
  unfold fraction? at h
  split at h
  · obtain ⟨⟨m, after⟩, hdigits, hpair⟩ := Option.map_eq_some_iff.1 h
    obtain ⟨digits, rfl, hlength, hm⟩ := digits?_eq_some hdigits
    obtain ⟨rfl, -⟩ := Prod.mk.inj hpair
    rw [List.length_append, Nat.add_sub_cancel]
    calc m * 10 ^ (9 - digits.length)
        < 10 ^ digits.length * 10 ^ (9 - digits.length) :=
          Nat.mul_lt_mul_of_pos_right hm (Nat.pow_pos (by decide))
      _ = 10 ^ 9 := by rw [← pow_add, Nat.add_sub_cancel' hlength]
  · obtain ⟨rfl, -⟩ := Prod.mk.inj (Option.some.inj h)
    decide

theorem one_le_daysIn (y : Int) (m : Nat) : 1 ≤ daysIn y m := by
  unfold daysIn
  split
  · split <;> decide
  all_goals decide

theorem daysIn_le (y : Int) (m : Nat) : daysIn y m ≤ 31 := by
  unfold daysIn
  split
  · split <;> decide
  all_goals decide

theorem isDate_iff {y : Int} {m d : Nat} : isDate y m d = true ↔
    minYear ≤ y ∧ y ≤ maxYear ∧ 1 ≤ m ∧ m ≤ 12 ∧ 1 ≤ d ∧ d ≤ daysIn y m := by
  simp [isDate, and_assoc]

theorem isTime_iff {h m s : Nat} : isTime h m s = true ↔ h ≤ 23 ∧ m ≤ 59 ∧ s ≤ 60 := by
  simp [isTime, and_assoc]

theorem Valid.withTime {h m : Nat} (ht : t.Valid) (hh : h ≤ 23) (hm : m ≤ 59) :
    { t with hour := h, minute := m }.Valid :=
  ⟨ht.date, isTime_iff.2 ⟨hh, hm, (isTime_iff.1 ht.time).2.2⟩, ht.fraction⟩

/-- The date after a date is a date, but for the last year. -/
theorem Valid.nextDay (h : t.Valid) (hyear : t.year < maxYear) : t.nextDay.Valid := by
  obtain ⟨hmin, hmax, hm, hm', hd, hd'⟩ := isDate_iff.1 h.date
  unfold Instant.nextDay
  split
  · rename_i hday
    exact ⟨isDate_iff.2 ⟨hmin, hmax, hm, hm', Nat.le_add_left 1 _, hday⟩, h.time, h.fraction⟩
  · split
    · rename_i hmonth
      exact ⟨isDate_iff.2 ⟨hmin, hmax, Nat.le_add_left 1 _, hmonth, le_refl 1, one_le_daysIn ..⟩,
        h.time, h.fraction⟩
    · exact ⟨isDate_iff.2 ⟨hmin.trans (Int.le_add_one (le_refl _)), hyear, le_refl 1,
        Nat.le_add_left 1 11, le_refl 1, one_le_daysIn ..⟩, h.time, h.fraction⟩

/-- The date before a date is a date, but for the first year. -/
theorem Valid.previousDay (h : t.Valid) (hyear : minYear < t.year) : t.previousDay.Valid := by
  obtain ⟨hmin, hmax, hm, hm', hd, hd'⟩ := isDate_iff.1 h.date
  unfold Instant.previousDay
  split
  · rename_i hday
    exact ⟨isDate_iff.2 ⟨hmin, hmax, hm, hm', Nat.le_sub_one_of_lt hday, (Nat.sub_le ..).trans hd'⟩,
      h.time, h.fraction⟩
  · split
    · rename_i hmonth
      exact ⟨isDate_iff.2 ⟨hmin, hmax, Nat.le_sub_one_of_lt hmonth, (Nat.sub_le ..).trans hm',
        one_le_daysIn .., le_refl _⟩, h.time, h.fraction⟩
    · exact ⟨isDate_iff.2 ⟨Int.le_sub_one_of_lt hyear, (Int.sub_le_self _ (by decide)).trans hmax,
        Nat.le_add_left 1 11, le_refl 12, Nat.le_add_left 1 30, le_refl 31⟩, h.time, h.fraction⟩

/-- The time of another zone gives an instant, but for the first year and the last. -/
theorem Valid.behind (h : t.Valid) (hmin : minYear < t.year) (hmax : t.year < maxYear)
    (minutes : Int) : (t.behind minutes).Valid := by
  have hmoved : ∀ total : Int, (if total < 0 then t.previousDay
      else if 1440 ≤ total then t.nextDay else t).Valid := by
    intro total
    split
    · exact h.previousDay hmin
    · split
      · exact h.nextDay hmax
      · exact h
  exact (hmoved _).withTime (by omega) (by omega)

/-- **What is read in the strict form is valid.** -/
theorem valid_of_strict? (h : strict? s = some t) : t.Valid := by
  unfold strict? at h
  obtain ⟨⟨year, s⟩, hyear, h⟩ := Option.bind_eq_some_iff.1 h
  obtain ⟨s, -, h⟩ := Option.bind_eq_some_iff.1 h
  obtain ⟨⟨month, s⟩, -, h⟩ := Option.bind_eq_some_iff.1 h
  obtain ⟨s, -, h⟩ := Option.bind_eq_some_iff.1 h
  obtain ⟨⟨day, s⟩, -, h⟩ := Option.bind_eq_some_iff.1 h
  dsimp only at h
  split at h
  · split at h
    · obtain ⟨s, -, h⟩ := Option.bind_eq_some_iff.1 h
      obtain ⟨⟨hour, s⟩, -, h⟩ := Option.bind_eq_some_iff.1 h
      obtain ⟨s, -, h⟩ := Option.bind_eq_some_iff.1 h
      obtain ⟨⟨minute, s⟩, -, h⟩ := Option.bind_eq_some_iff.1 h
      obtain ⟨s, -, h⟩ := Option.bind_eq_some_iff.1 h
      obtain ⟨⟨second, s⟩, -, h⟩ := Option.bind_eq_some_iff.1 h
      obtain ⟨⟨nanosecond, s⟩, hfraction, h⟩ := Option.bind_eq_some_iff.1 h
      obtain ⟨⟨ahead, s⟩, -, h⟩ := Option.bind_eq_some_iff.1 h
      split at h
      · rename_i hfields
        obtain ⟨hdate, htime⟩ := Bool.and_eq_true_iff.1 hfields
        have hvalid : Valid ⟨year, month, day, hour, minute, second, nanosecond⟩ :=
          ⟨(Bool.and_eq_true_iff.1 hdate).2, htime, fraction?_lt hfraction⟩
        obtain rfl := Option.some.inj h
        -- four digits are far from the first year and the last
        have hlt : year < 10 ^ 4 := lt_of_digits? hyear
        refine hvalid.behind ?_ ?_ ahead
        · exact (by decide : minYear < 0).trans_le (Int.natCast_nonneg year)
        · exact (Int.ofNat_lt.2 hlt).trans (by decide)
      · cases h
    · cases h
  · cases h

theorem isDate_of_looseDate? {y : Int} {m d : Nat} (h : looseDate? s = some ((y, m, d), rest)) :
    isDate y m d = true := by
  unfold looseDate? at h
  obtain ⟨⟨year, s⟩, -, h⟩ := Option.bind_eq_some_iff.1 h
  obtain ⟨s, -, h⟩ := Option.bind_eq_some_iff.1 h
  obtain ⟨⟨month, s⟩, -, h⟩ := Option.bind_eq_some_iff.1 h
  obtain ⟨s, -, h⟩ := Option.bind_eq_some_iff.1 h
  obtain ⟨⟨day, s⟩, -, h⟩ := Option.bind_eq_some_iff.1 h
  dsimp only at h
  split at h
  · rename_i hdate
    cases h
    exact hdate
  · cases h

/-- **What is read in the loose form is valid.** -/
theorem valid_of_loose? (h : loose? s = some t) : t.Valid := by
  unfold loose? at h
  obtain ⟨⟨⟨year, month, day⟩, s⟩, hdate, h⟩ := Option.bind_eq_some_iff.1 h
  obtain ⟨s, -, h⟩ := Option.bind_eq_some_iff.1 h
  obtain ⟨⟨hour, s⟩, -, h⟩ := Option.bind_eq_some_iff.1 h
  obtain ⟨s, -, h⟩ := Option.bind_eq_some_iff.1 h
  obtain ⟨⟨minute, s⟩, -, h⟩ := Option.bind_eq_some_iff.1 h
  obtain ⟨s, -, h⟩ := Option.bind_eq_some_iff.1 h
  obtain ⟨⟨second, s⟩, -, h⟩ := Option.bind_eq_some_iff.1 h
  obtain ⟨⟨nanosecond, s⟩, hfraction, h⟩ := Option.bind_eq_some_iff.1 h
  dsimp only at h
  split at h
  · rename_i hfields
    cases h
    exact ⟨isDate_of_looseDate? hdate, (Bool.and_eq_true_iff.1 hfields).2, fraction?_lt hfraction⟩
  · cases h

/-- **What is read as a date alone is valid.** -/
theorem valid_of_date? (h : date? s = some t) : t.Valid := by
  unfold date? at h
  obtain ⟨⟨⟨year, month, day⟩, s⟩, hdate, h⟩ := Option.bind_eq_some_iff.1 h
  dsimp only at h
  split at h
  · cases h
    exact ⟨isDate_of_looseDate? hdate, rfl, (by decide : 0 < 10 ^ 9)⟩
  · cases h

/-- **Every reading is valid.** -/
theorem valid_of_parse? (h : parse? text = some t) : t.Valid := by
  unfold parse? at h
  rcases Option.or_eq_some_iff.1 h with hstrict | ⟨-, h⟩
  · exact valid_of_strict? hstrict
  · rcases Option.or_eq_some_iff.1 h with hloose | ⟨-, hdate⟩
    · exact valid_of_loose? hloose
    · exact valid_of_date? hdate

/-! ## What is written -/

theorem isDigit_of_mem_padded {c : Char} (h : c ∈ padded width n) : c.isDigit = true := by
  rcases List.mem_append.1 h with h | h
  · rw [List.eq_of_mem_replicate h]
    rfl
  · exact Nat.isDigit_of_mem_toDigits (by decide) (by decide) h

theorem exists_padded_eq_cons (width n : Nat) :
    ∃ c rest, padded width n = c :: rest ∧ c.isDigit = true := by
  cases h : padded width n with
  | nil => exact absurd (List.append_eq_nil_iff.1 h).2 Nat.toDigits_ne_nil
  | cons c rest =>
    have hmem : c ∈ padded width n := by
      rw [h]
      exact List.mem_cons_self ..
    exact ⟨c, rest, rfl, isDigit_of_mem_padded hmem⟩

theorem length_padded (hwidth : 0 < width) (h : n < 10 ^ width) :
    (padded width n).length = width := by
  have hdigits := (Nat.length_toDigits_le_iff (b := 10) (by decide) hwidth).2 h
  rw [padded, List.length_append, List.length_replicate]
  exact Nat.sub_add_cancel hdigits

/-- Digits are read as their number, up to what may still belong to it. -/
theorem digits?_append (hdigits : ∀ c ∈ digits, c.isDigit = true) (hleast : least ≤ digits.length)
    (hmost : digits.length ≤ most)
    (hrest : (rest.take (most - digits.length)).takeWhile Char.isDigit = []) :
    digits? least most (digits ++ rest) = some (Nat.ofDigitChars 10 digits 0, rest) := by
  have hrun : ((digits ++ rest).take most).takeWhile Char.isDigit = digits := by
    rw [List.take_append, List.take_of_length_le hmost, List.takeWhile_append_of_pos hdigits, hrest,
      List.append_nil]
  unfold digits?
  dsimp only
  rw [hrun, if_neg (Nat.not_lt.2 hleast), List.drop_left, Nat.ofDigitChars_eq_foldl]

theorem char?_cons (c : Char) (rest : List Char) : char? c (c :: rest) = some rest := if_pos rfl

/-- A number in so many digits is read again. -/
theorem digits?_padded (hwidth : 0 < width) (h : n < 10 ^ width) (rest : List Char) :
    digits? width width (padded width n ++ rest) = some (n, rest) := by
  have hlength := length_padded hwidth h
  rw [digits?_append (fun c hc => isDigit_of_mem_padded hc) hlength.ge hlength.le, padded,
    Decimal.ofDigitChars_leading]
  rw [hlength, Nat.sub_self]
  rfl

/-- Milliseconds are read as so many nanoseconds. -/
theorem fraction?_millis (h : n < 1000) :
    fraction? ('.' :: (padded 3 n ++ ['Z'])) = some (n * 1000000, ['Z']) := by
  have hlength : (padded 3 n).length = 3 := length_padded (by decide) h
  have hdigits : digits? 1 9 (padded 3 n ++ ['Z']) = some (n, ['Z']) := by
    rw [digits?_append (fun c hc => isDigit_of_mem_padded hc) (by omega) (by omega), padded,
      Decimal.ofDigitChars_leading]
    rw [hlength]
    rfl
  refine (congrArg (Option.map _) hdigits).trans ?_
  rw [Option.map_some, List.length_append, hlength]
  rfl

/-- The time of the zone that is not ahead. -/
theorem Valid.behind_zero (h : t.Valid) : t.behind 0 = t := by
  obtain ⟨hhour, hminute, -⟩ := isTime_iff.1 h.time
  unfold Instant.behind
  dsimp only
  rw [if_neg (by omega), if_neg (by omega)]
  obtain ⟨year, month, day, hour, minute, second, nanosecond⟩ := t
  simp only [mk.injEq, true_and, and_true] at hhour hminute ⊢
  omega

/-- The years that the text of an instant gives in four digits. -/
def CommonYear (t : Instant) : Prop := 0 ≤ t.year ∧ t.year ≤ 9999

theorem CommonYear.yearChars (h : t.CommonYear) : yearChars t.year = padded 4 t.year.toNat :=
  if_pos h

/-- The instant down to the millisecond, fractions of it cut off. -/
def cutToMillis (t : Instant) : Instant :=
  { t with nanosecond := t.nanosecond / 1000000 * 1000000 }

theorem Valid.cutToMillis (h : t.Valid) : t.cutToMillis.Valid :=
  ⟨h.date, h.time, (Nat.div_mul_le_self ..).trans_lt h.fraction⟩

/-- **The text of an instant has the strict form.** -/
theorem strict?_render (h : t.Valid) (hyear : t.CommonYear) :
    strict? (t.render (padded 3 (t.nanosecond / 1000000))) = some t.cutToMillis := by
  obtain ⟨hmin, hmax, hm, hm', hd, hd'⟩ := isDate_iff.1 h.date
  obtain ⟨hhour, hminute, hsecond⟩ := isTime_iff.1 h.time
  have hfraction := h.fraction
  have hday : t.day ≤ 31 := hd'.trans (daysIn_le ..)
  rw [render, hyear.yearChars]
  obtain ⟨hyear, hyear'⟩ := hyear
  simp only [List.append_assoc, List.cons_append]
  unfold strict?
  -- the date
  refine Option.bind_eq_some_iff.2 ⟨_, digits?_padded (by decide) (by omega) _, ?_⟩
  refine Option.bind_eq_some_iff.2 ⟨_, char?_cons .., ?_⟩
  refine Option.bind_eq_some_iff.2 ⟨_, digits?_padded (by decide) (by omega) _, ?_⟩
  refine Option.bind_eq_some_iff.2 ⟨_, char?_cons .., ?_⟩
  refine Option.bind_eq_some_iff.2 ⟨_, digits?_padded (by decide) (by omega) _, ?_⟩
  -- the letter in front of the time, and the time
  refine (if_pos (.inl rfl)).trans ?_
  refine Option.bind_eq_some_iff.2 ⟨_, rfl, ?_⟩
  refine Option.bind_eq_some_iff.2 ⟨_, digits?_padded (by decide) (by omega) _, ?_⟩
  refine Option.bind_eq_some_iff.2 ⟨_, char?_cons .., ?_⟩
  refine Option.bind_eq_some_iff.2 ⟨_, digits?_padded (by decide) (by omega) _, ?_⟩
  refine Option.bind_eq_some_iff.2 ⟨_, char?_cons .., ?_⟩
  refine Option.bind_eq_some_iff.2 ⟨_, digits?_padded (by decide) (by omega) _, ?_⟩
  -- the fraction, and the zone
  refine Option.bind_eq_some_iff.2 ⟨_, fraction?_millis (by omega), ?_⟩
  refine Option.bind_eq_some_iff.2 ⟨_, rfl, ?_⟩
  dsimp only
  rw [Int.toNat_of_nonneg hyear, h.date, h.time]
  exact congrArg some h.cutToMillis.behind_zero

/-- The text of an instant has no blanks around it. -/
theorem trim_render (hyear : t.CommonYear) (fraction : List Char) :
    Text.trim (t.render fraction) = t.render fraction := by
  refine Text.trim_eq_self (fun c hc => ?_) fun c hc => ?_
  · obtain ⟨d, rest, hyears, hd⟩ := exists_padded_eq_cons 4 t.year.toNat
    rw [render, hyear.yearChars, hyears] at hc
    obtain rfl : d = c := Option.some.inj hc
    exact Text.isBlank_of_isDigit hd
  · rw [render, List.getLast?_concat] at hc
    obtain rfl : 'Z' = c := Option.some.inj hc
    decide

/-- **The text of an instant is read as the instant down to the millisecond.** -/
theorem parse?_millisText (h : t.Valid) (hyear : t.CommonYear) :
    parse? t.millisText = some t.cutToMillis := by
  rw [parse?, millisText, String.toList_ofList, trim_render hyear, strict?_render h hyear]
  rfl

/-- Whether an instant is one of a whole millisecond. -/
def WholeMillis (t : Instant) : Prop := 1000000 ∣ t.nanosecond

theorem cutToMillis_eq_self_iff : t.cutToMillis = t ↔ t.WholeMillis := by
  obtain ⟨year, month, day, hour, minute, second, nanosecond⟩ := t
  simp only [cutToMillis, WholeMillis, mk.injEq, true_and]
  omega

end Instant

end EntityBase
