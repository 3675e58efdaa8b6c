import EntityBase.Proofs.Token.Lexemes

/-!
# Spelling — texts that are read as given tokens

`Tokens` follows `read` from one token of a text to the next, and a text
that it covers is scanned without a refusal (`scan_of_tokens`). A text
**spells** tokens when it is read as these in front of whatever follows,
as long as what follows does not go on with its last word: a blank, a
bracket or the end. So spellings are put together with blanks between
them, and in brackets.
-/

namespace EntityBase.Lexer

variable {text rest w : List Char} {c : Char} {t : Token} {tokens more : List Token}

/-- The tokens of a text, one reading after another. -/
inductive Tokens : List Char → List Token → Prop
  | nil : Tokens [] []
  | token {text : List Char} {t : Token} {n : Nat} {tokens : List Token} :
    read text = .token t n → 0 < n → Tokens (text.drop n) tokens → Tokens text (t :: tokens)
  | skipped {text : List Char} {n : Nat} {tokens : List Token} :
    read text = .skipped n → 0 < n → Tokens (text.drop n) tokens → Tokens text tokens

/-- The tokens of a text are those of its lexemes, wherever the text starts. -/
theorem Tokens.lexes (h : Tokens text tokens) (offset : Nat) :
    ∃ lexemes, Lexes offset text lexemes ∧ lexemes.map (·.token) = tokens := by
  induction h generalizing offset with
  | nil => exact ⟨[], .nil offset, rfl⟩
  | @token text t n tokens hread hn _ ih =>
    obtain ⟨lexemes, hlexes, htokens⟩ := ih (offset + byteLength (text.take n))
    exact ⟨_, .token hread hn hlexes, by rw [List.map_cons, htokens]⟩
  | @skipped text n tokens hread hn _ ih =>
    obtain ⟨lexemes, hlexes, htokens⟩ := ih (offset + byteLength (text.take n))
    exact ⟨lexemes, .skipped hread hn hlexes, htokens⟩

theorem Lexes.toTokens {offset : Nat} {lexemes : List Lexeme} (h : Lexes offset text lexemes) :
    Tokens text (lexemes.map (·.token)) := by
  induction h with
  | nil => exact .nil
  | token hread hn _ ih => exact .token hread hn ih
  | skipped hread hn _ ih => exact .skipped hread hn ih

/-- **Scanning gives the tokens of the text.** -/
theorem scan_of_tokens (h : Tokens text tokens) (fuel offset : Nat) (hfuel : text.length ≤ fuel) :
    ∃ lexemes, scan fuel offset text = .ok lexemes ∧ lexemes.map (·.token) = tokens := by
  obtain ⟨lexemes, hlexes, htokens⟩ := h.lexes offset
  exact ⟨lexemes, hlexes.scan hfuel, htokens⟩

/-! ## What one token is written as -/

/-- What may follow a word: it does not go on with it. -/
def Boundary (rest : List Char) : Prop :=
  ∀ c ∈ rest.head?, isWordChar c = false ∧ c.toNat < 128

theorem boundary_nil : Boundary [] := by
  intro c hc
  cases hc

theorem boundary_cons (hc : isWordChar c = false) (hascii : c.toNat < 128) :
    Boundary (c :: rest) := by
  intro d hd
  obtain rfl := Option.some.inj hd
  exact ⟨hc, hascii⟩

/-- In front of a boundary the run of word characters ends. -/
theorem takeWhile_word (hw : ∀ c ∈ w, isWordChar c = true) (hrest : Boundary rest) :
    (w ++ rest).takeWhile isWordChar = w := by
  have hnone : rest.takeWhile isWordChar = [] := by
    cases rest with
    | nil => rfl
    | cons c rest =>
      rw [List.takeWhile_cons, (hrest c rfl).1]
      rfl
  rw [List.takeWhile_append_of_pos hw, hnone, List.append_nil]

theorem isSeparator_eq_false_of_isWordChar (h : isWordChar c = true) : isSeparator c = false := by
  cases hc : isSeparator c with
  | false => rfl
  | true =>
    unfold isSeparator at hc
    simp only [Bool.or_eq_true, beq_iff_eq] at hc
    rcases hc with ((((rfl | rfl) | rfl) | rfl) | rfl) | rfl <;> revert h <;> decide

/-- Word characters in a row that can be read together: they begin no comment. -/
structure IsWord (w : List Char) : Prop where
  chars : ∀ c ∈ w, isWordChar c = true
  nonempty : w ≠ []
  no_comment : ¬ ['/', '/'] <+: w

/-- A word is read up to the boundary. A tilde could begin another form. -/
theorem read_word (hw : IsWord w) (htilde : w.head? ≠ some '~') (ht : ofWord w = some t)
    (hrest : Boundary rest) : read (w ++ rest) = .token t w.length := by
  obtain ⟨hw, hne, hcomment⟩ := hw
  obtain ⟨c, w', rfl⟩ := List.exists_cons_of_ne_nil hne
  have hword : isWordChar c = true := hw c (List.mem_cons_self ..)
  have hne : ∀ d, isWordChar d = false → c ≠ d := by
    rintro d hd rfl
    rw [hword] at hd
    cases hd
  have htilde : c ≠ '~' := fun h => htilde (congrArg some h)
  -- a word character is none of those that start another form
  have hdefault : read (c :: w' ++ rest)
      = if isSeparator c then .skipped (((w' ++ rest).takeWhile isSeparator).length + 1)
        else readWord (c :: w' ++ rest) ((c :: w' ++ rest).takeWhile isWordChar).length := by
    rw [List.cons_append, read.eq_def]
    split <;> rename_i heq
    · cases heq
    all_goals have hfirst := (List.cons.inj heq).1
    -- two slashes in front are not both of the word, and what follows begins with none
    · obtain rfl := hfirst
      cases w' with
      | nil =>
        obtain rfl : rest = '/' :: _ := (List.cons.inj heq).2
        exact absurd (hrest '/' rfl).1 (by decide)
      | cons d w' =>
        obtain rfl := (List.cons.inj (List.cons.inj heq).2).1
        exact absurd ⟨w', rfl⟩ hcomment
    · exact absurd hfirst (hne '[' (by decide))
    · exact absurd hfirst (hne ']' (by decide))
    · exact absurd hfirst (hne '\x7b' (by decide))
    · exact absurd hfirst (hne '\x7d' (by decide))
    · exact absurd hfirst (hne '"' (by decide))
    · exact absurd hfirst (hne '\'' (by decide))
    · exact absurd hfirst htilde
    · exact absurd hfirst htilde
    · obtain ⟨rfl, rfl⟩ := List.cons.inj heq
      rfl
  -- what follows is in ASCII, so no wide blank joins the word
  have hwide : startsWithWideBlank rest = false := by
    cases rest with
    | nil => rfl
    | cons d rest =>
      have := (hrest d rfl).2
      unfold startsWithWideBlank
      simp only [Bool.and_eq_false_iff, decide_eq_false_iff_not]
      exact Or.inl (by omega)
  rw [hdefault, isSeparator_eq_false_of_isWordChar hword, takeWhile_word hw hrest]
  unfold readWord
  rw [List.drop_left, List.take_left, hwide, ht]
  simp

/-! ## Strings -/

theorem isPlain_hexDigit :
    ∀ n < 16, Text.Quoted.hexDigit n ≠ '"' ∧ Text.Quoted.hexDigit n ≠ '\\' := by
  decide

/-- The search for a closing quote steps over a written character. -/
theorem runTo_encodeChar (c : Char) (rest : List Char) :
    runTo '"' (fun _ => false) (Text.Quoted.encodeChar c ++ rest)
      = ⟨(runTo '"' (fun _ => false) rest).length + (Text.Quoted.encodeChar c).length,
          (runTo '"' (fun _ => false) rest).closed⟩ := by
  have hplain : ∀ (d : Char) (rest : List Char), d ≠ '"' → d ≠ '\\' →
      runTo '"' (fun _ => false) (d :: rest)
        = ⟨(runTo '"' (fun _ => false) rest).length + 1,
            (runTo '"' (fun _ => false) rest).closed⟩ := by
    intro d rest hquote hslash
    rw [runTo_cons hslash, if_neg hquote]
    rfl
  unfold Text.Quoted.encodeChar
  split
  · exact runTo_escape (by decide)
  split
  · exact runTo_escape (by decide)
  split
  · exact runTo_escape (by decide)
  split
  · exact runTo_escape (by decide)
  split
  · exact runTo_escape (by decide)
  split
  · exact runTo_escape (by decide)
  split
  · exact runTo_escape (by decide)
  split
  · rename_i hcontrol
    obtain ⟨hq, hs⟩ := isPlain_hexDigit (c.toNat / 16) (by omega)
    obtain ⟨hq', hs'⟩ := isPlain_hexDigit (c.toNat % 16) (by omega)
    simp only [List.cons_append, List.nil_append]
    rw [runTo_escape (by decide), hplain _ _ (by decide) (by decide),
      hplain _ _ (by decide) (by decide), hplain _ _ hq hs, hplain _ _ hq' hs']
    rfl
  · rename_i hquote hslash _ _ _ _ _ _
    exact hplain _ _ hquote hslash

/-- The search ends at the closing quote of a written string. -/
theorem runTo_encodeChars (s rest : List Char) :
    runTo '"' (fun _ => false) (Text.Quoted.encodeChars s ++ '"' :: rest)
      = ⟨(Text.Quoted.encodeChars s).length + 1, true⟩ := by
  induction s with
  | nil => rfl
  | cons c s ih =>
    rw [Text.Quoted.encodeChars, List.append_assoc, runTo_encodeChar, ih, List.length_append]
    simp only [Run.mk.injEq, and_true]
    omega

/-- A written string is read up to its closing quote. -/
theorem read_encode (s : String) (rest : List Char) :
    read (Text.Quoted.encode s ++ rest) = .token (.text s) (Text.Quoted.encode s).length := by
  have htext : Text.Quoted.encode s ++ rest
      = '"' :: (Text.Quoted.encodeChars s.toList ++ '"' :: rest) := by
    simp [Text.Quoted.encode]
  have hlength : (Text.Quoted.encode s).length
      = (Text.Quoted.encodeChars s.toList).length + 1 + 1 := by
    simp [Text.Quoted.encode]
  have htake : ('"' :: (Text.Quoted.encodeChars s.toList ++ '"' :: rest)).take
      ((Text.Quoted.encodeChars s.toList).length + 1 + 1) = Text.Quoted.encode s := by
    rw [← htext, ← hlength, List.take_left]
  rw [htext, read]
  simp only [runTo_encodeChars, htake, Text.Quoted.decode_encode, hlength]

/-! ## Spellings -/

/-- Whether a text is read as tokens in front of every boundary. -/
def Spells (text : List Char) (tokens : List Token) : Prop :=
  ∀ rest more, Boundary rest → Tokens rest more → Tokens (text ++ rest) (tokens ++ more)

/-- A whole text is read as the tokens that it spells. -/
theorem tokens_of_spells (h : Spells text tokens) : Tokens text tokens := by
  have := h [] [] boundary_nil .nil
  rwa [List.append_nil, List.append_nil] at this

theorem spells_nil : Spells [] [] := fun _ _ _ h => h

/-- What is read as one token in front of every boundary spells it. -/
theorem spells_of_read (hne : text ≠ [])
    (h : ∀ rest, Boundary rest → read (text ++ rest) = .token t text.length) :
    Spells text [t] := by
  intro rest more hrest hmore
  refine .token (h rest hrest) (List.length_pos_iff.2 hne) ?_
  rwa [List.drop_left]

theorem spells_encode (s : String) : Spells (Text.Quoted.encode s) [.text s] :=
  spells_of_read (List.cons_ne_nil _ _) fun rest _ => read_encode s rest

/-- A word spells what it is. -/
theorem IsWord.spells (hw : IsWord w) (htilde : w.head? ≠ some '~') (ht : ofWord w = some t) :
    Spells w [t] :=
  spells_of_read hw.nonempty fun _ hrest => read_word hw htilde ht hrest

theorem spells_word (hw : w.all isWordChar = true)
    (hhead : ∃ c, w.head? = some c ∧ c ≠ '/' ∧ c ≠ '~') (ht : ofWord w = some t) :
    Spells w [t] := by
  obtain ⟨c, hc, hslash, htilde⟩ := hhead
  refine IsWord.spells ⟨List.all_eq_true.1 hw, ?_, ?_⟩ ?_ ht
  · rintro rfl
    cases hc
  · rintro ⟨rest, rfl⟩
    exact hslash (Option.some.inj hc).symm
  · rw [hc]
    exact fun h => htilde (Option.some.inj h)

/-- Separators in front of a text change nothing. -/
theorem Tokens.separator (hc : isSeparator c = true) (h : Tokens rest more) :
    Tokens (c :: rest) more := by
  obtain ⟨lexemes, hlexes, rfl⟩ := h.lexes (0 + c.utf8Size)
  exact (hlexes.separator hc).toTokens

theorem boundary_separator (hc : isSeparator c = true) : Boundary (c :: rest) := by
  unfold isSeparator at hc
  simp only [Bool.or_eq_true, beq_iff_eq] at hc
  rcases hc with ((((rfl | rfl) | rfl) | rfl) | rfl) | rfl <;>
    exact boundary_cons (by decide) (by decide)

/-- Two spellings with a separator between them. -/
theorem Spells.append {text' : List Char} {tokens' : List Token} (h : Spells text tokens)
    (hc : isSeparator c = true) (h' : Spells text' tokens') :
    Spells (text ++ c :: text') (tokens ++ tokens') := by
  intro rest more hrest hmore
  rw [List.append_assoc, List.append_assoc]
  -- the separator ends the last word of the first text
  exact h _ _ (boundary_separator hc) ((h' rest more hrest hmore).separator hc)

/-- A separator in front of a spelling changes nothing. -/
theorem Spells.separator (hc : isSeparator c = true) (h : Spells text tokens) :
    Spells (c :: text) tokens :=
  fun rest more hrest hmore => (h rest more hrest hmore).separator hc

/-- A spelling in brackets of either kind. -/
theorem Spells.enclosed {o c : Char} {t u : Token} (h : Spells text tokens)
    (hopen : ∀ rest, read (o :: rest) = .token t 1) (hclose : ∀ rest, read (c :: rest) = .token u 1)
    (hc : isWordChar c = false) (hascii : c.toNat < 128) :
    Spells (o :: (text ++ [c])) (t :: (tokens ++ [u])) := by
  intro rest more _ hmore
  have hinner : Tokens (text ++ c :: rest) (tokens ++ u :: more) :=
    h _ _ (boundary_cons hc hascii) (.token (hclose rest) Nat.one_pos hmore)
  have hwhole : o :: (text ++ [c]) ++ rest = o :: (text ++ c :: rest) := by simp
  rw [hwhole]
  simpa using Tokens.token (hopen _) Nat.one_pos hinner

theorem Spells.brackets (h : Spells text tokens) :
    Spells ('[' :: (text ++ [']'])) (.openBracket :: (tokens ++ [.closeBracket])) :=
  h.enclosed (fun _ => rfl) (fun _ => rfl) (by decide) (by decide)

theorem Spells.braces (h : Spells text tokens) :
    Spells ('\x7b' :: (text ++ ['\x7d'])) (.openBrace :: (tokens ++ [.closeBrace])) :=
  h.enclosed (fun _ => rfl) (fun _ => rfl) (by decide) (by decide)

end EntityBase.Lexer
