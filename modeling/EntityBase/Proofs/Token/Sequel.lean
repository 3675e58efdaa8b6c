import EntityBase.Proofs.Token.Lexemes

/-!
# One text after another — tokens with a line end between them

Where a text is read and ends, a line end and another text behind it change
nothing: no token reaches across the line end, because a word and a date end in
front of it, a comment ends with its line, and a quoted text was closed before. Only
the separators at the end of the first text and at the start of the second are
skipped together. So the tokens of both texts, with a line end between them, are
those of the first and then those of the second, further on by the bytes of the
first and one (`tokenize_newline`).
-/

namespace EntityBase

theorem byteLength_append (a b : List Char) :
    byteLength (a ++ b) = byteLength a + byteLength b := by
  induction a with
  | nil => simp [byteLength]
  | cons c a ih => rw [List.cons_append, byteLength, ih, byteLength, Nat.add_assoc]

namespace Lexer

variable {text rest l r : List Char} {c close : Char} {stops : Char → Bool}

/-! ## Runs in front of a line end -/

/-- What a line end does not belong to ends in front of it. -/
theorem takeWhile_newline {p : Char → Bool} (hp : p '\n' = false) (l r : List Char) :
    (l ++ '\n' :: r).takeWhile p = l.takeWhile p := by
  induction l with
  | nil => exact List.takeWhile_cons_of_neg (by simp [hp])
  | cons c l ih =>
    rw [List.cons_append, List.takeWhile_cons, List.takeWhile_cons, ih]

theorem takeWhile_length_le (p : Char → Bool) (l : List Char) :
    (l.takeWhile p).length ≤ l.length :=
  (List.takeWhile_prefix p).length_le

/-- **A run that is closed** does not see what follows it. -/
theorem runTo_append (hclose : close ≠ '\\') (h : (runTo close stops l).closed = true)
    (r : List Char) : runTo close stops (l ++ r) = runTo close stops l ∧
      (runTo close stops l).length ≤ l.length := by
  induction l using runTo.induct close stops with
  | case1 => cases h
  | case2 rest => cases h
  | case3 c rest hc ih =>
    rw [runTo_escape hc] at h ⊢
    obtain ⟨hrun, hlength⟩ := ih h
    rw [List.cons_append, List.cons_append, runTo_escape hc, hrun]
    exact ⟨rfl, Nat.add_le_add_right hlength 2⟩
  | case4 rest hne =>
    rw [List.cons_append, runTo_cons hclose, runTo_cons hclose, if_pos rfl, if_pos rfl]
    exact ⟨rfl, Nat.le_add_left 1 _⟩
  | case5 c rest hne hc hstop =>
    rw [runTo, if_neg hc, if_pos hstop] at h
    · cases h
    · exact hne
  | case6 c rest hne hc hstop ih =>
    obtain ⟨hslash, hstops⟩ : c ≠ '\\' ∧ stops c = false := by simpa using hstop
    rw [runTo_cons hslash, if_neg hc, hstops] at h ⊢
    obtain ⟨hrun, hlength⟩ := ih h
    rw [List.cons_append, runTo_cons hslash, if_neg hc, hstops, hrun]
    exact ⟨rfl, Nat.add_le_add_right hlength 1⟩

/-- **A run that stops at a line end** does not see what stands behind it. -/
theorem runTo_newline (hstops : stops '\n' = true) (hslash : close ≠ '\\') (hclose : close ≠ '\n')
    (l r : List Char) : runTo close stops (l ++ '\n' :: r) = runTo close stops l ∧
      (runTo close stops l).length ≤ l.length := by
  have hend : runTo close stops ('\n' :: r) = ⟨0, false⟩ := by
    rw [runTo_cons (by decide), if_neg (Ne.symm hclose), hstops]
    rfl
  induction l using runTo.induct close stops with
  | case1 => exact ⟨hend, Nat.le_refl 0⟩
  | case2 rest => exact ⟨rfl, Nat.zero_le _⟩
  | case3 c rest hc ih =>
    rw [List.cons_append, List.cons_append, runTo_escape hc, runTo_escape hc, ih.1]
    exact ⟨rfl, Nat.add_le_add_right ih.2 2⟩
  | case4 rest hne =>
    rw [List.cons_append, runTo_cons hslash, runTo_cons hslash, if_pos rfl, if_pos rfl]
    exact ⟨rfl, Nat.le_add_left 1 _⟩
  | case5 c rest hne hc hstop =>
    -- a backslash at the end takes the line end along, which ends the run as well
    have hstopped : runTo close stops (c :: rest) = ⟨0, false⟩ := by
      rw [runTo, if_neg hc, if_pos hstop]
      exact hne
    have hstopped' : runTo close stops (c :: rest ++ '\n' :: r) = ⟨0, false⟩ := by
      by_cases hc' : c = '\\'
      · subst hc'
        cases rest with
        | nil => rfl
        | cons d rest => exact (hne d rest rfl rfl).elim
      · rw [List.cons_append, runTo_cons hc', if_neg hc, if_pos]
        simpa [hc'] using hstop
    rw [hstopped, hstopped']
    exact ⟨rfl, Nat.zero_le _⟩
  | case6 c rest hne hc hstop ih =>
    obtain ⟨hc', hstops'⟩ : c ≠ '\\' ∧ stops c = false := by simpa using hstop
    rw [List.cons_append, runTo_cons hc', runTo_cons hc', if_neg hc, if_neg hc, hstops', ih.1]
    exact ⟨rfl, Nat.add_le_add_right ih.2 1⟩

/-- A date ends with its line. -/
theorem runToBar_newline (l r : List Char) : runToBar (l ++ '\n' :: r) = runToBar l ∧
    (runToBar l).length ≤ l.length := by
  induction l with
  | nil => exact ⟨rfl, Nat.le_refl 0⟩
  | cons c l ih =>
    rw [List.cons_append, runToBar, runToBar]
    split
    · exact ⟨rfl, Nat.le_add_left 1 _⟩
    split
    · exact ⟨rfl, Nat.zero_le _⟩
    · rw [ih.1]
      exact ⟨rfl, Nat.add_le_add_right ih.2 1⟩

/-! ## Words and forms in front of a line end -/

theorem drop_newline {n : Nat} (hn : n ≤ l.length) (r : List Char) :
    (l ++ '\n' :: r).drop n = l.drop n ++ '\n' :: r :=
  List.drop_append_of_le_length hn

theorem take_newline {n : Nat} (hn : n ≤ l.length) (r : List Char) :
    (l ++ '\n' :: r).take n = l.take n :=
  List.take_append_of_le_length hn

theorem startsWithWideBlank_newline (l r : List Char) :
    startsWithWideBlank (l ++ '\n' :: r) = startsWithWideBlank l := by
  cases l <;> rfl

theorem readWord_newline {n : Nat} (hn : n ≤ text.length) (r : List Char) :
    readWord (text ++ '\n' :: r) n = readWord text n := by
  unfold readWord
  rw [drop_newline hn, take_newline hn, startsWithWideBlank_newline]

theorem length_readWord_le {n : Nat} (hn : n ≤ text.length) (hne : text ≠ []) :
    (readWord text n).length ≤ text.length := by
  have hpos : 0 < text.length := List.length_pos_iff.mpr hne
  unfold readWord
  split
  · exact hpos
  split
  · exact hn
  split
  · exact hn
  · exact hn


theorem readForm_newline {opening after : Nat} {run : Run} (token : List Char → Token)
    (hrun : opening + run.length + after ≤ text.length) (r : List Char) :
    readForm (text ++ '\n' :: r) opening run after token = readForm text opening run after token := by
  have hword := takeWhile_length_le isWordChar text
  unfold readForm
  dsimp only
  rw [takeWhile_newline (by decide), take_newline hrun, readWord_newline hword]

theorem length_readForm_le {opening after : Nat} {run : Run} (token : List Char → Token)
    (hrun : opening + run.length + after ≤ text.length) (hne : text ≠ []) :
    (readForm text opening run after token).length ≤ text.length := by
  have hword := length_readWord_le (takeWhile_length_le isWordChar text) hne
  unfold readForm
  dsimp only
  split
  · split
    · exact hrun
    · exact hword
  split
  · exact Nat.le_trans (Nat.le_add_right _ after) hrun
  · exact hword

/-! ## What a text starts with -/

/-- What the forms with characters of their own start with. -/
def marks : List (List Char) :=
  [['/', '/'], ['['], [']'], ['\x7b'], ['\x7d'], ['"'], ['\''], ['~', 'r', '/'], ['~', 'd', '|']]

/-- A text that starts with none of the marks: it stands between tokens or is a run of
word characters. -/
def Unmarked (text : List Char) : Prop := ∀ m ∈ marks, ¬ m <+: text

theorem read_of_unmarked (h : Unmarked (c :: rest)) :
    read (c :: rest) = if isSeparator c then .skipped ((rest.takeWhile isSeparator).length + 1)
      else readWord (c :: rest) ((c :: rest).takeWhile isWordChar).length := by
  have hmark : ∀ m ∈ marks, ∀ tail, c :: rest ≠ m ++ tail :=
    fun m hm tail heq => h m hm ⟨tail, heq.symm⟩
  rw [read.eq_def]
  split <;> rename_i heq
  · cases heq
  · exact (hmark ['/', '/'] (by decide) _ heq).elim
  · exact (hmark ['['] (by decide) _ heq).elim
  · exact (hmark [']'] (by decide) _ heq).elim
  · exact (hmark ['\x7b'] (by decide) _ heq).elim
  · exact (hmark ['\x7d'] (by decide) _ heq).elim
  · exact (hmark ['"'] (by decide) _ heq).elim
  · exact (hmark ['\''] (by decide) _ heq).elim
  · exact (hmark ['~', 'r', '/'] (by decide) _ heq).elim
  · exact (hmark ['~', 'd', '|'] (by decide) _ heq).elim
  · obtain ⟨rfl, rfl⟩ := List.cons.inj heq
    rfl

/-- What a text can start with: a comment, a bracket, which is a token whatever stands
behind it, one of the four forms, or none of the marks. -/
inductive Front : List Char → Prop
  | comment (rest : List Char) : Front ('/' :: '/' :: rest)
  | bracket {c : Char} {t : Token} (hread : ∀ rest, read (c :: rest) = .token t 1)
    (rest : List Char) : Front (c :: rest)
  | quoted (rest : List Char) : Front ('"' :: rest)
  | single (rest : List Char) : Front ('\'' :: rest)
  | pattern (rest : List Char) : Front ('~' :: 'r' :: '/' :: rest)
  | date (rest : List Char) : Front ('~' :: 'd' :: '|' :: rest)
  | unmarked {text : List Char} (h : Unmarked text) : Front text

theorem front (text : List Char) : Front text := by
  by_cases hmark : ∃ m ∈ marks, m <+: text
  · obtain ⟨m, hm, rest, rfl⟩ := hmark
    simp only [marks, List.mem_cons, List.not_mem_nil, or_false] at hm
    obtain rfl | rfl | rfl | rfl | rfl | rfl | rfl | rfl | rfl := hm
    · exact .comment rest
    · exact .bracket (fun _ => rfl) rest
    · exact .bracket (fun _ => rfl) rest
    · exact .bracket (fun _ => rfl) rest
    · exact .bracket (fun _ => rfl) rest
    · exact .quoted rest
    · exact .single rest
    · exact .pattern rest
    · exact .date rest
  · exact .unmarked fun m hm hfront => hmark ⟨m, hm, hfront⟩

/-- What has no line end and stands at the front stands in front of the line end. -/
theorem prefix_newline {m : List Char} (hm : '\n' ∉ m) (h : m <+: l ++ '\n' :: r) : m <+: l := by
  obtain ⟨tail, htail⟩ := h
  rcases List.append_eq_append_iff.mp htail with ⟨t, rfl, -⟩ | ⟨t, rfl, ht⟩
  · exact List.prefix_append m t
  · cases t with
    | nil => simp
    | cons d t =>
      obtain ⟨rfl, -⟩ := List.cons.inj ht
      exact (hm (by simp)).elim

theorem Unmarked.newline (h : Unmarked text) (r : List Char) : Unmarked (text ++ '\n' :: r) := by
  have hmarks : ∀ m ∈ marks, '\n' ∉ m := by decide
  exact fun m hm hprefix => h m hm (prefix_newline (hmarks m hm) hprefix)

/-! ## One reading in front of a line end -/

/-- Whether a text is read at its front alike with a line end and anything behind it. -/
def Ends (text : List Char) : Prop :=
  (read text).length ≤ text.length ∧ ∀ r, read (text ++ '\n' :: r) = read text

theorem ends_comment (rest : List Char) : Ends ('/' :: '/' :: rest) := by
  refine ⟨Nat.add_le_add_right (takeWhile_length_le _ rest) 2, fun r => ?_⟩
  change Reading.skipped ((firstLine (rest ++ '\n' :: r)).length + 2) = _
  unfold firstLine
  rw [takeWhile_newline (by decide)]
  rfl

theorem ends_bracket {t : Token} (hread : ∀ rest, read (c :: rest) = .token t 1)
    (rest : List Char) : Ends (c :: rest) := by
  refine ⟨?_, fun r => (hread _).trans (hread rest).symm⟩
  rw [hread]
  exact Nat.le_add_left 1 _

/-- A text in double quotes, if it is closed. -/
theorem ends_quoted (hread : ∀ n, read ('"' :: rest) ≠ .refused n) : Ends ('"' :: rest) := by
  have hclosed : (runTo '"' (fun _ => false) rest).closed = true := by
    cases hopen : (runTo '"' (fun _ => false) rest).closed with
    | true => rfl
    | false =>
      refine (hread ((runTo '"' (fun _ => false) rest).length + 1) ?_).elim
      rw [read]
      rw [hopen]
  have hrun := runTo_append (by decide) hclosed
  have hlength := Nat.add_le_add_right (hrun []).2 1
  refine ⟨?_, fun r => ?_⟩
  · rw [read]
    split <;> exact hlength
  · rw [List.cons_append, read, read]
    rw [(hrun _).1, ← List.cons_append, take_newline hlength]

/-- A text in single quotes, if it is closed. -/
theorem ends_single (hread : ∀ n, read ('\'' :: rest) ≠ .refused n) : Ends ('\'' :: rest) := by
  have hclosed : (runTo '\'' (fun _ => false) rest).closed = true := by
    cases hopen : (runTo '\'' (fun _ => false) rest).closed with
    | true => rfl
    | false =>
      refine (hread ((runTo '\'' (fun _ => false) rest).length + 1) ?_).elim
      rw [read]
      rw [hopen]
      rfl
  have hrun := runTo_append (by decide) hclosed
  have hlength := (hrun []).2
  refine ⟨?_, fun r => ?_⟩
  · rw [read]
    rw [if_pos hclosed]
    exact Nat.add_le_add_right hlength 1
  · rw [List.cons_append, read, read]
    rw [(hrun _).1, take_newline (Nat.le_trans (Nat.sub_le _ 1) hlength)]

/-- A pattern: neither it nor its flags reach over a line end. -/
theorem ends_pattern (rest : List Char) : Ends ('~' :: 'r' :: '/' :: rest) := by
  have hrun : ∀ r, runTo '/' (· == '\n') (rest ++ '\n' :: r) = runTo '/' (· == '\n') rest ∧
      (runTo '/' (· == '\n') rest).length ≤ rest.length :=
    runTo_newline rfl (by decide) (by decide) rest
  have hlength := (hrun []).2
  have hflags := takeWhile_length_le (fun c => c.isLower)
    (rest.drop (runTo '/' (· == '\n') rest).length)
  rw [List.length_drop] at hflags
  have hfits : 3 + (runTo '/' (· == '\n') rest).length
      + ((rest.drop (runTo '/' (· == '\n') rest).length).takeWhile fun c => c.isLower).length
      ≤ ('~' :: 'r' :: '/' :: rest).length := by
    simp only [List.length_cons]
    omega
  refine ⟨?_, fun r => ?_⟩
  · rw [read]
    exact length_readForm_le _ hfits (List.cons_ne_nil _ _)
  change read ('~' :: 'r' :: '/' :: (rest ++ '\n' :: r)) = _
  rw [read, read, (hrun r).1, drop_newline hlength, takeWhile_newline (by decide),
    take_newline (Nat.le_trans (Nat.sub_le _ 1) hlength)]
  exact readForm_newline _ hfits r

/-- A date ends with its line. -/
theorem ends_date (rest : List Char) : Ends ('~' :: 'd' :: '|' :: rest) := by
  have hlength := (runToBar_newline rest []).2
  have hfits : 3 + (runToBar rest).length + 0 ≤ ('~' :: 'd' :: '|' :: rest).length := by
    simp only [List.length_cons]
    omega
  refine ⟨?_, fun r => ?_⟩
  · rw [read]
    exact length_readForm_le _ hfits (List.cons_ne_nil _ _)
  change read ('~' :: 'd' :: '|' :: (rest ++ '\n' :: r)) = _
  rw [read, read, (runToBar_newline rest r).1, take_newline (Nat.le_trans (Nat.sub_le _ 1) hlength)]
  exact readForm_newline _ hfits r

/-- A word ends in front of a line end. -/
theorem ends_unmarked (h : Unmarked (c :: rest)) (hsome : ∃ d ∈ c :: rest, isSeparator d = false) :
    Ends (c :: rest) := by
  have hword := takeWhile_length_le isWordChar (c :: rest)
  have hseparators := takeWhile_length_le isSeparator rest
  refine ⟨?_, fun r => ?_⟩
  · rw [read_of_unmarked h]
    split
    · exact Nat.add_le_add_right hseparators 1
    · exact length_readWord_le hword (List.cons_ne_nil _ _)
  · have hnewline := h.newline r
    rw [List.cons_append] at hnewline ⊢
    rw [read_of_unmarked hnewline, read_of_unmarked h]
    split
    · rename_i hc
      -- a run of separators ends in front of the character that is none
      have hrun : (rest ++ '\n' :: r).takeWhile isSeparator = rest.takeWhile isSeparator := by
        obtain ⟨d, hd, hnone⟩ := hsome
        have hrest : d ∈ rest := by
          rcases List.mem_cons.mp hd with rfl | hrest
          · rw [hc] at hnone
            cases hnone
          · exact hrest
        rw [List.takeWhile_append, if_neg]
        intro hall
        have heq := List.takeWhile_prefix (p := isSeparator) (l := rest) |>.eq_of_length hall
        have hsep := List.all_eq_true.mp List.all_takeWhile d (heq ▸ hrest)
        rw [hnone] at hsep
        cases hsep
      rw [hrun]
    · rw [← List.cons_append, takeWhile_newline (by decide), readWord_newline hword]

/-- **What is read is read alike in front of a line end**, unless the text is nothing
but separators, which go on behind the line end. -/
theorem ends_of_read (hread : ∀ n, read text ≠ .refused n)
    (hsome : ∃ d ∈ text, isSeparator d = false) : Ends text := by
  cases front text with
  | comment rest => exact ends_comment rest
  | bracket hbracket rest => exact ends_bracket hbracket rest
  | quoted rest => exact ends_quoted hread
  | single rest => exact ends_single hread
  | pattern rest => exact ends_pattern rest
  | date rest => exact ends_date rest
  | unmarked hunmarked =>
    cases text with
    | nil =>
      obtain ⟨d, hd, -⟩ := hsome
      cases hd
    | cons c rest => exact ends_unmarked hunmarked hsome

/-! ## One text after another -/

variable {offset : Nat} {lexemes more : List Lexeme}

/-- **The lexemes of two texts with a line end between them** are those of the first
and those of the second. The induction is on the readings of the first text: each is
the same in front of the line end, up to the separators at its end. -/
theorem Lexes.newline (h : Lexes offset text lexemes)
    (hmore : Lexes (offset + byteLength text + 1) rest more) :
    Lexes offset (text ++ '\n' :: rest) (lexemes ++ more) := by
  have hsplit : ∀ (text : List Char) (n : Nat),
      byteLength text = byteLength (text.take n) + byteLength (text.drop n) := by
    intro text n
    rw [← byteLength_append, List.take_append_drop]
  induction h with
  | nil offset => exact hmore.separator rfl
  | @token offset n text t lexemes hread hn _ ih =>
    have hsome : ∃ d ∈ text, isSeparator d = false := by
      cases text with
      | nil => cases hread
      | cons c rest =>
        cases hc : isSeparator c with
        | false => exact ⟨c, List.mem_cons_self .., hc⟩
        | true =>
          rw [read_separator hc] at hread
          cases hread
    have hends := ends_of_read (fun k hrefused => by rw [hread] at hrefused; cases hrefused) hsome
    have hlength : n ≤ text.length := by
      have hle := hends.1
      rwa [hread] at hle
    have hread' : read (text ++ '\n' :: rest) = .token t n := (hends.2 rest).trans hread
    rw [hsplit text n, ← Nat.add_assoc offset] at hmore
    rw [List.cons_append, ← take_newline hlength rest]
    refine .token hread' hn ?_
    rw [take_newline hlength, drop_newline hlength]
    exact ih hmore
  | @skipped offset n text lexemes hread hn hlexes ih =>
    by_cases hall : ∀ d ∈ text, isSeparator d = true
    · obtain rfl := hlexes.eq_nil fun d hd => hall d (List.mem_of_mem_drop hd)
      exact Lexes.separators hall (hmore.separator rfl)
    · have hsome : ∃ d ∈ text, isSeparator d = false := by
        simpa using hall
      have hends := ends_of_read (fun k hrefused => by rw [hread] at hrefused; cases hrefused) hsome
      have hlength : n ≤ text.length := by
        have hle := hends.1
        rwa [hread] at hle
      have hread' : read (text ++ '\n' :: rest) = .skipped n := (hends.2 rest).trans hread
      rw [hsplit text n, ← Nat.add_assoc offset] at hmore
      refine .skipped hread' hn ?_
      rw [take_newline hlength, drop_newline hlength]
      exact ih hmore

/-- **The tokens of two texts with a line end between them**: no token reaches across
the line end. -/
theorem tokenize_newline {first second : String} {program program' : List Lexeme}
    (hfirst : tokenize first = .ok program) (hsecond : tokenize second = .ok program') :
    tokenize (first ++ "\n" ++ second)
      = .ok (program ++ program'.map (Lexeme.shift (byteLength first.toList + 1))) := by
  have hprogram : Lexes 0 first.toList program := lexes_of_scan hfirst (Nat.le_refl _)
  have hprogram' : Lexes 0 second.toList program' := lexes_of_scan hsecond (Nat.le_refl _)
  have hshift := hprogram'.shift (byteLength first.toList + 1)
  rw [← Nat.add_assoc] at hshift
  have hwhole := hprogram.newline hshift
  have htext : (first ++ "\n" ++ second).toList = first.toList ++ '\n' :: second.toList := by
    simp
  unfold tokenize
  rw [htext]
  exact hwhole.scan (Nat.le_refl _)

end Lexer

end EntityBase
