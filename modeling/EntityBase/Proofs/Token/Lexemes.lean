import EntityBase.Token.Lexer

/-!
# Lexemes — a scan as a relation on the text

`Lexes` follows `read` from one place of a text to the next and gathers the tokens
with their spans. A scan that refuses nothing gives the lexemes of the text
(`lexes_of_scan`, `Lexes.scan`), for every reading takes something and so the fuel
lasts. Lexemes depend on where a text starts in their spans only (`Lexes.shift`), and
separators in front of a text only move them (`Lexes.separators`).
-/

namespace EntityBase

/-- The place so many bytes further on. -/
def Span.shift (k : Nat) (s : Span) : Span := ⟨s.start + k, s.stop + k⟩

/-- The lexeme so many bytes further on. -/
def Lexeme.shift (k : Nat) (l : Lexeme) : Lexeme := { l with span := l.span.shift k }

namespace Lexer

variable {text rest : List Char} {c close : Char} {stops : Char → Bool} {offset : Nat}
  {lexemes : List Lexeme}

/-! ## The search for a closing character -/

/-- The search takes one character at a time that is no backslash. -/
theorem runTo_cons (hc : c ≠ '\\') :
    runTo close stops (c :: rest)
      = if c = close then ⟨1, true⟩
        else if stops c then ⟨0, false⟩
        else ⟨(runTo close stops rest).length + 1, (runTo close stops rest).closed⟩ := by
  rw [runTo.eq_def]
  split
  · rename_i heq
    cases heq
  · rename_i heq
    exact absurd (List.cons.inj heq).1 hc
  · rename_i heq
    obtain ⟨rfl, rfl⟩ := List.cons.inj heq
    simp [hc]

/-- An escape is stepped over whole, whatever its second character. -/
theorem runTo_escape (hc : c ≠ '\n') :
    runTo close stops ('\\' :: c :: rest)
      = ⟨(runTo close stops rest).length + 2, (runTo close stops rest).closed⟩ := by
  rw [runTo, if_neg hc]

/-! ## Every reading takes something -/

theorem length_readWord_pos {n : Nat} : 0 < (readWord text n).length := by
  unfold readWord
  split
  · exact Nat.one_pos
  split
  · exact Nat.pos_of_ne_zero ‹_›
  split <;> exact Nat.pos_of_ne_zero ‹_›

theorem length_readForm_pos {opening after : Nat} {run : Run} {token : List Char → Token}
    (h : 0 < opening) : 0 < (readForm text opening run after token).length := by
  have hlength : 0 < opening + run.length := Nat.add_pos_left h _
  unfold readForm
  dsimp only
  split
  · split
    · exact Nat.add_pos_left hlength after
    · exact length_readWord_pos
  split
  · exact hlength
  · exact length_readWord_pos

theorem length_read_pos (hne : text ≠ []) : 0 < (read text).length := by
  rw [read.eq_def]
  split
  · exact (hne rfl).elim
  · exact Nat.succ_pos _
  · exact Nat.one_pos
  · exact Nat.one_pos
  · exact Nat.one_pos
  · exact Nat.one_pos
  · dsimp only
    split <;> exact Nat.succ_pos _
  · dsimp only
    split <;> exact Nat.succ_pos _
  · exact length_readForm_pos (by decide)
  · exact length_readForm_pos (by decide)
  · split
    · exact Nat.succ_pos _
    · exact length_readWord_pos

/-- A reading that takes something leaves a shorter text. -/
theorem length_drop_lt {n fuel : Nat} (hn : 0 < n) (hread : (read text).length = n)
    (hfuel : text.length ≤ fuel + 1) : text ≠ [] ∧ (text.drop n).length ≤ fuel := by
  cases text with
  | nil =>
    have hnone : (read []).length = 0 := rfl
    omega
  | cons c rest =>
    rw [List.length_drop]
    exact ⟨List.cons_ne_nil _ _, by omega⟩

/-! ## The lexemes of a text -/

/-- The lexemes of a text that starts at byte `offset`, one reading after another. -/
inductive Lexes : Nat → List Char → List Lexeme → Prop
  | nil (offset : Nat) : Lexes offset [] []
  | token {offset n : Nat} {text : List Char} {t : Token} {lexemes : List Lexeme} :
    read text = .token t n → 0 < n →
    Lexes (offset + byteLength (text.take n)) (text.drop n) lexemes →
    Lexes offset text (⟨t, ⟨offset, offset + byteLength (text.take n)⟩⟩ :: lexemes)
  | skipped {offset n : Nat} {text : List Char} {lexemes : List Lexeme} :
    read text = .skipped n → 0 < n →
    Lexes (offset + byteLength (text.take n)) (text.drop n) lexemes → Lexes offset text lexemes

/-- A scan that refuses nothing gives the lexemes of the text. -/
theorem lexes_of_scan {fuel : Nat} (h : scan fuel offset text = .ok lexemes)
    (hfuel : text.length ≤ fuel) : Lexes offset text lexemes := by
  induction fuel generalizing offset text lexemes with
  | zero =>
    obtain rfl := List.eq_nil_of_length_eq_zero (Nat.le_zero.mp hfuel)
    obtain rfl := Except.ok.inj h
    exact .nil offset
  | succ fuel ih =>
    rw [scan] at h
    by_cases hempty : text.isEmpty
    · obtain rfl := List.isEmpty_iff.mp hempty
      obtain rfl := Except.ok.inj h
      exact .nil offset
    · rw [if_neg hempty] at h
      have hne : text ≠ [] := by simpa using hempty
      have hpos := length_read_pos hne
      have hrest := (length_drop_lt hpos rfl hfuel).2
      cases hread : read text with
      | refused n =>
        rw [hread] at h
        cases h
      | skipped n =>
        rw [hread] at h hpos hrest
        exact .skipped hread hpos (ih h hrest)
      | token t n =>
        rw [hread] at h hpos hrest
        dsimp only at h
        cases hscan : scan fuel (offset + byteLength (text.take n)) (text.drop n) with
        | error e =>
          rw [Reading.length, hscan] at h
          cases h
        | ok rest =>
          rw [Reading.length, hscan] at h
          obtain rfl := Except.ok.inj h
          exact .token hread hpos (ih hscan hrest)

/-- The lexemes of a text are those that a scan gives. -/
theorem Lexes.scan (h : Lexes offset text lexemes) {fuel : Nat} (hfuel : text.length ≤ fuel) :
    scan fuel offset text = .ok lexemes := by
  induction h generalizing fuel with
  | nil => cases fuel <;> rfl
  | @token offset n text t lexemes hread hn _ ih =>
    have hlength : (read text).length = n := congrArg Reading.length hread
    cases fuel with
    | zero =>
      obtain rfl := List.eq_nil_of_length_eq_zero (Nat.le_zero.mp hfuel)
      cases hread
    | succ fuel =>
      obtain ⟨hne, hrest⟩ := length_drop_lt hn hlength hfuel
      rw [Lexer.scan, if_neg (by simpa using hne)]
      simp only [hread, Reading.length, ih hrest]
  | @skipped offset n text lexemes hread hn _ ih =>
    have hlength : (read text).length = n := congrArg Reading.length hread
    cases fuel with
    | zero =>
      obtain rfl := List.eq_nil_of_length_eq_zero (Nat.le_zero.mp hfuel)
      obtain rfl : 0 = n := hlength
      omega
    | succ fuel =>
      obtain ⟨hne, hrest⟩ := length_drop_lt hn hlength hfuel
      rw [Lexer.scan, if_neg (by simpa using hne)]
      simp only [hread, Reading.length, ih hrest]

/-- Further on in a source the lexemes are further on. -/
theorem Lexes.shift (h : Lexes offset text lexemes) (k : Nat) :
    Lexes (offset + k) text (lexemes.map (Lexeme.shift k)) := by
  induction h with
  | nil offset => exact .nil (offset + k)
  | @token offset n text t lexemes hread hn _ ih =>
    rw [Nat.add_right_comm] at ih
    have htoken := Lexes.token hread hn ih
    rw [Nat.add_right_comm] at htoken
    exact htoken
  | @skipped offset n text lexemes hread hn _ ih =>
    rw [Nat.add_right_comm] at ih
    exact .skipped hread hn ih

/-! ## Separators in front of a text -/

theorem read_separator (hc : isSeparator c = true) (rest : List Char) :
    read (c :: rest) = .skipped ((rest.takeWhile isSeparator).length + 1) := by
  unfold isSeparator at hc
  simp only [Bool.or_eq_true, beq_iff_eq] at hc
  rcases hc with ((((rfl | rfl) | rfl) | rfl) | rfl) | rfl <;> rfl

/-- A separator in front of a text changes nothing. -/
theorem Lexes.separator (hc : isSeparator c = true)
    (h : Lexes (offset + c.utf8Size) rest lexemes) : Lexes offset (c :: rest) lexemes := by
  have hread := read_separator hc rest
  have hbytes : ∀ n, offset + byteLength ((c :: rest).take (n + 1))
      = offset + c.utf8Size + byteLength (rest.take n) := by
    intro n
    rw [List.take_succ_cons, byteLength, Nat.add_assoc]
  have hone : rest.takeWhile isSeparator = [] → Lexes offset (c :: rest) lexemes := by
    intro hnone
    rw [hnone] at hread
    refine .skipped hread Nat.one_pos ?_
    rw [List.length_nil, hbytes 0]
    exact h
  cases hrest : rest with
  | nil =>
    subst hrest
    exact hone rfl
  | cons d rest' =>
    cases hd : isSeparator d with
    | false =>
      rw [← hrest]
      refine hone ?_
      rw [hrest, List.takeWhile_cons_of_neg (by simp [hd])]
    | true =>
      -- the two runs of separators are one
      have hread' := read_separator hd rest'
      subst hrest
      rw [List.takeWhile_cons_of_pos hd] at hread
      cases h with
      | token htoken =>
        rw [hread'] at htoken
        cases htoken
      | skipped hskipped _ hmore =>
        rw [hread'] at hskipped
        obtain rfl := Reading.skipped.inj hskipped
        refine .skipped hread (Nat.succ_pos _) ?_
        rw [List.length_cons, hbytes]
        exact hmore

theorem Lexes.separators (hall : ∀ d ∈ text, isSeparator d = true)
    (h : Lexes (offset + byteLength text) rest lexemes) : Lexes offset (text ++ rest) lexemes := by
  induction text generalizing offset with
  | nil => exact h
  | cons c text ih =>
    rw [byteLength, ← Nat.add_assoc] at h
    exact (ih (fun d hd => hall d (List.mem_cons_of_mem c hd)) h).separator
      (hall c (List.mem_cons_self ..))

/-- Between separators there is no lexeme. -/
theorem Lexes.eq_nil (h : Lexes offset text lexemes) (hall : ∀ d ∈ text, isSeparator d = true) :
    lexemes = [] := by
  induction h with
  | nil => rfl
  | @token offset n text t lexemes hread _ _ _ =>
    cases text with
    | nil => cases hread
    | cons c rest =>
      rw [read_separator (hall c (List.mem_cons_self ..))] at hread
      cases hread
  | skipped _ _ _ ih => exact ih fun d hd => hall d (List.mem_of_mem_drop hd)

end Lexer

end EntityBase
