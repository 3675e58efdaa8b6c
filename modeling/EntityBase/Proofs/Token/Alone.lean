import EntityBase.Proofs.Token.Sequel

/-!
# Alone — a token cut out of its text

What a token was read from is enough to read it again. A run that looks for a closing
character, closed or not, does not see what stands behind its last character
(`runTo_take`, `runToBar_take`); a word ends where its word characters end, and the
flags of a pattern where its small letters end. So the characters of a token, cut out
of the text, are read as that token from the first to the last (`read_take`).
-/

namespace EntityBase.Lexer

variable {text rest : List Char} {c close : Char} {stops : Char → Bool} {t : Token} {k n : Nat}

/-! ## Runs that are cut behind their end -/

/-- **A run does not see what stands behind it.** -/
theorem runTo_take (hslash : close ≠ '\\') {l : List Char}
    (hk : (runTo close stops l).length ≤ k) :
    runTo close stops (l.take k) = runTo close stops l := by
  induction l using runTo.induct close stops generalizing k with
  | case1 => rw [List.take_nil]
  | case2 rest =>
    -- a backslash in front of a line end stops the run, and so does one at the end
    cases k with
    | zero => rfl
    | succ k =>
      cases k with
      | zero =>
        have hend : runTo close stops ['\\'] = ⟨0, false⟩ := by
          rw [runTo, if_neg (Ne.symm hslash)]
          · rfl
          · intro _ _ _ hcons
            cases hcons
        exact hend
      | succ k => rfl
  | case3 c rest hc ih =>
    rw [runTo_escape hc] at hk
    obtain ⟨k, rfl⟩ := Nat.exists_eq_add_of_le' (Nat.le_of_add_left_le hk)
    rw [List.take_succ_cons, List.take_succ_cons, runTo_escape hc, runTo_escape hc,
      ih (Nat.le_of_add_le_add_right hk)]
  | case4 rest hne =>
    rw [runTo_cons hslash, if_pos rfl] at hk
    obtain ⟨k, rfl⟩ := Nat.exists_eq_add_of_le' hk
    rw [List.take_succ_cons, runTo_cons hslash, runTo_cons hslash, if_pos rfl, if_pos rfl]
  | case5 c rest hne hc hstop =>
    cases k with
    | zero =>
      rw [runTo, if_neg hc, if_pos hstop]
      · rfl
      · exact hne
    | succ k =>
      rw [List.take_succ_cons]
      have hne' : ∀ d tail, c = '\\' → rest.take k = d :: tail → False := by
        rintro d tail rfl htake
        cases rest with
        | nil => simp at htake
        | cons e rest => exact hne e rest rfl rfl
      rw [runTo, runTo, if_neg hc, if_pos hstop, if_neg hc, if_pos hstop]
      · exact hne
      · exact hne'
  | case6 c rest hne hc hstop ih =>
    obtain ⟨hc', hstops⟩ : c ≠ '\\' ∧ stops c = false := by simpa using hstop
    have hrun : runTo close stops (c :: rest)
        = ⟨(runTo close stops rest).length + 1, (runTo close stops rest).closed⟩ := by
      rw [runTo_cons hc', if_neg hc, hstops]
      rfl
    rw [hrun] at hk ⊢
    obtain ⟨k, rfl⟩ := Nat.exists_eq_add_of_le' (Nat.le_of_add_left_le hk)
    rw [List.take_succ_cons, runTo_cons hc', if_neg hc, hstops, ih (Nat.le_of_add_le_add_right hk)]
    rfl

theorem runToBar_take {l : List Char} (hk : (runToBar l).length ≤ k) :
    runToBar (l.take k) = runToBar l := by
  induction l generalizing k with
  | nil => rw [List.take_nil]
  | cons c l ih =>
    cases k with
    | zero =>
      rw [runToBar] at hk ⊢
      split at hk
      · cases hk
      split at hk
      · rename_i hbar hline
        rw [List.take_zero, if_neg hbar, if_pos hline]
        rfl
      · cases hk
    | succ k =>
      rw [List.take_succ_cons, runToBar, runToBar]
      rw [runToBar] at hk
      split
      · rfl
      split
      · rfl
      · rename_i hbar hline
        rw [if_neg hbar, if_neg hline] at hk
        rw [ih (Nat.le_of_add_le_add_right hk)]

/-! ## Words and forms that are cut behind their end -/

/-- What `readWord` takes for a token it takes over the whole word. -/
theorem readWord_eq_token (h : readWord text n = .token t k) :
    k = n ∧ n ≠ 0 ∧ ofWord (text.take n) = some t := by
  unfold readWord at h
  split at h
  · cases h
  rename_i hzero
  split at h
  · cases h
  split at h
  · rename_i hword
    obtain ⟨rfl, rfl⟩ := Reading.token.inj h
    exact ⟨rfl, hzero, hword⟩
  · cases h

/-- A word alone has nothing behind it that it could be refused for. -/
theorem readWord_take (hn : n ≠ 0) (h : ofWord (text.take n) = some t) :
    readWord (text.take n) n = .token t n := by
  have hend : (text.take n).drop n = [] := List.drop_take_self
  have hwide : startsWithWideBlank [] = false := rfl
  unfold readWord
  rw [if_neg hn, hend, hwide, List.take_take, Nat.min_self, h]
  rfl

theorem takeWhile_take {p : Char → Bool} {l : List Char} (hk : (l.takeWhile p).length ≤ k) :
    (l.take k).takeWhile p = l.takeWhile p := by
  rw [← List.take_takeWhile, List.take_of_length_le hk]

/-- **A form alone is read alike**, if its run is the same and, when that is closed, so
is what belongs to it behind the run. -/
theorem readForm_take {opening after after' : Nat} {run : Run} {token token' : List Char → Token}
    (h : readForm text opening run after token = .token t n)
    (hsame : run.closed = true → opening + run.length + after ≤ n →
      after' = after ∧ token' = token) :
    readForm (text.take n) opening run after' token' = .token t n := by
  unfold readForm at h ⊢
  dsimp only at h ⊢
  have hword : ∀ {w}, (text.takeWhile isWordChar).length = w → readWord text w = .token t n →
      w = n ∧ ((text.take n).takeWhile isWordChar).length = n ∧
        readWord (text.take n) n = .token t n := by
    rintro w rfl h
    obtain ⟨rfl, hzero, hof⟩ := readWord_eq_token h
    exact ⟨rfl, by rw [takeWhile_take (Nat.le_refl _)], readWord_take hzero hof⟩
  split at h
  · rename_i hclosed
    split at h
    · rename_i hlong
      obtain ⟨rfl, rfl⟩ := Reading.token.inj h
      obtain ⟨rfl, rfl⟩ := hsame hclosed (Nat.le_refl _)
      rw [if_pos hclosed, takeWhile_take hlong, if_pos hlong, List.take_take, Nat.min_self]
    · rename_i hshort
      obtain ⟨hn, hlength, hread⟩ := hword rfl h
      rw [hn] at hshort
      obtain ⟨rfl, rfl⟩ := hsame hclosed (Nat.le_of_lt (Nat.lt_of_not_le hshort))
      rw [if_pos hclosed, hlength, if_neg hshort, hread]
  · rename_i hopen
    split at h
    · cases h
    · rename_i hlong
      obtain ⟨hn, hlength, hread⟩ := hword rfl h
      rw [hn] at hlong
      rw [if_neg hopen, hlength, if_neg hlong, hread]

/-- A form takes what its run took, and the rest of a closed one. -/
theorem readForm_bounds {opening after : Nat} {run : Run} {token : List Char → Token}
    (h : readForm text opening run after token = .token t n)
    (hfits : run.closed = true → opening + run.length + after ≤ text.length) :
    opening + run.length ≤ n ∧ n ≤ text.length := by
  have hlength := takeWhile_length_le isWordChar text
  unfold readForm at h
  dsimp only at h
  split at h
  · rename_i hclosed
    split at h
    · obtain ⟨-, rfl⟩ := Reading.token.inj h
      exact ⟨Nat.le_add_right _ _, hfits hclosed⟩
    · obtain ⟨rfl, -⟩ := readWord_eq_token h
      exact ⟨by omega, hlength⟩
  split at h
  · cases h
  · obtain ⟨rfl, -⟩ := readWord_eq_token h
    exact ⟨by omega, hlength⟩

/-! ## Every form alone -/

/-- Whether the first characters of a text are read alone as the token they are. -/
def Alone (text : List Char) : Prop :=
  ∀ t n, read text = .token t n → n ≤ text.length ∧ read (text.take n) = .token t n

theorem alone_bracket {t : Token} (hbracket : ∀ rest, read (c :: rest) = .token t 1)
    (rest : List Char) : Alone (c :: rest) := by
  intro u n hread
  rw [hbracket rest] at hread
  obtain ⟨rfl, rfl⟩ := Reading.token.inj hread
  exact ⟨Nat.le_add_left 1 _, hbracket []⟩

theorem alone_quoted (rest : List Char) : Alone ('"' :: rest) := by
  intro t n hread
  rw [read] at hread
  split at hread
  · rename_i s hclosed hdecode
    obtain ⟨rfl, rfl⟩ := Reading.token.inj hread
    have hlength := (runTo_append (by decide) hclosed []).2
    refine ⟨Nat.add_le_add_right hlength 1, ?_⟩
    rw [List.take_succ_cons] at hdecode ⊢
    rw [read, runTo_take (by decide) (Nat.le_refl _), List.take_succ_cons, List.take_take,
      Nat.min_self, hclosed, hdecode]
  · cases hread

theorem alone_single (rest : List Char) : Alone ('\'' :: rest) := by
  intro t n hread
  rw [read] at hread
  split at hread
  · rename_i hclosed
    obtain ⟨rfl, rfl⟩ := Reading.token.inj hread
    have hlength := (runTo_append (by decide) hclosed []).2
    refine ⟨Nat.add_le_add_right hlength 1, ?_⟩
    rw [List.take_succ_cons, read, runTo_take (by decide) (Nat.le_refl _), if_pos hclosed,
      List.take_take, Nat.min_eq_left (Nat.sub_le _ 1)]
  · cases hread

/-- A pattern with its flags, or the word that is longer. -/
theorem alone_pattern (rest : List Char) : Alone ('~' :: 'r' :: '/' :: rest) := by
  intro t n hread
  rw [read] at hread
  have hfits : (runTo '/' (· == '\n') rest).closed = true →
      3 + (runTo '/' (· == '\n') rest).length
        + ((rest.drop (runTo '/' (· == '\n') rest).length).takeWhile fun c => c.isLower).length
        ≤ ('~' :: 'r' :: '/' :: rest).length := by
    intro hclosed
    have hlength := (runTo_append (by decide) hclosed []).2
    have hflags := takeWhile_length_le (fun c => c.isLower)
      (rest.drop (runTo '/' (· == '\n') rest).length)
    rw [List.length_drop] at hflags
    simp only [List.length_cons]
    omega
  obtain ⟨hrun, hlength⟩ := readForm_bounds hread hfits
  obtain ⟨m, rfl⟩ := Nat.exists_eq_add_of_le' (Nat.le_of_add_right_le hrun)
  have hrun' : (runTo '/' (· == '\n') rest).length ≤ m := by omega
  refine ⟨hlength, ?_⟩
  rw [List.take_succ_cons, List.take_succ_cons, List.take_succ_cons, read,
    runTo_take (by decide) hrun', List.take_take,
    Nat.min_eq_left (Nat.le_trans (Nat.sub_le _ 1) hrun'), List.drop_take]
  refine readForm_take hread fun _ hafter => ?_
  rw [takeWhile_take (by omega)]
  exact ⟨rfl, rfl⟩

/-- A date, or the word that is longer. -/
theorem alone_date (rest : List Char) : Alone ('~' :: 'd' :: '|' :: rest) := by
  intro t n hread
  rw [read] at hread
  have hfits : (runToBar rest).closed = true →
      3 + (runToBar rest).length + 0 ≤ ('~' :: 'd' :: '|' :: rest).length := by
    intro _
    have hlength := (runToBar_newline rest []).2
    simp only [List.length_cons]
    omega
  obtain ⟨hrun, hlength⟩ := readForm_bounds hread hfits
  obtain ⟨m, rfl⟩ := Nat.exists_eq_add_of_le' (Nat.le_of_add_right_le hrun)
  have hrun' : (runToBar rest).length ≤ m := by omega
  refine ⟨hlength, ?_⟩
  rw [List.take_succ_cons, List.take_succ_cons, List.take_succ_cons, read, runToBar_take hrun',
    List.take_take, Nat.min_eq_left (Nat.le_trans (Nat.sub_le _ 1) hrun')]
  exact readForm_take hread fun _ _ => ⟨rfl, rfl⟩

theorem Unmarked.take (h : Unmarked text) (n : Nat) : Unmarked (text.take n) :=
  fun m hm hfront => h m hm (hfront.trans (List.take_prefix n text))

theorem alone_unmarked (h : Unmarked (c :: rest)) : Alone (c :: rest) := by
  intro t n hread
  rw [read_of_unmarked h] at hread
  split at hread
  · cases hread
  rename_i hc
  obtain ⟨rfl, hzero, hof⟩ := readWord_eq_token hread
  refine ⟨takeWhile_length_le isWordChar _, ?_⟩
  have htake := h.take ((c :: rest).takeWhile isWordChar).length
  obtain ⟨m, hm⟩ := Nat.exists_eq_succ_of_ne_zero hzero
  have hword := takeWhile_take (p := isWordChar) (Nat.le_refl ((c :: rest).takeWhile isWordChar).length)
  have halone := readWord_take hzero hof
  rw [hm, List.take_succ_cons] at htake hword halone ⊢
  rw [read_of_unmarked htake, if_neg hc, hword, hm, halone]

/-- **A token is read alone as in its text.** -/
theorem read_take (h : read text = .token t n) :
    n ≤ text.length ∧ read (text.take n) = .token t n := by
  suffices halone : Alone text from halone t n h
  cases front text with
  | comment rest => cases h
  | bracket hbracket rest => exact alone_bracket hbracket rest
  | quoted rest => exact alone_quoted rest
  | single rest => exact alone_single rest
  | pattern rest => exact alone_pattern rest
  | date rest => exact alone_date rest
  | unmarked hunmarked =>
    cases text with
    | nil => cases h
    | cons c rest => exact alone_unmarked hunmarked

end EntityBase.Lexer
