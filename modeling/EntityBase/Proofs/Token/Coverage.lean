import EntityBase.Proofs.Token.Alone

/-!
# Coverage — nothing of a text is lost between its tokens

A text that is tokenized falls into the texts of its tokens and the gaps around them
(`Tiles`). A **gap** is made of separators and of comments that reach to the end of
their line, so the one behind the last token may end within a comment. What stands at
the span of a token is a token of its own: alone it is tokenized to that token
(`tokenize_coverage`).
-/

namespace EntityBase

variable {before piece after : List Char}

/-! ## The text at a span -/

theorem utf8ByteSize_ofList (l : List Char) : (String.ofList l).utf8ByteSize = byteLength l := by
  induction l with
  | nil => rfl
  | cons c l ih =>
    have hcons : String.ofList (c :: l) = String.singleton c ++ String.ofList l := by
      simp
    rw [hcons, String.utf8ByteSize_append, String.utf8ByteSize_singleton, ih, byteLength]

/-- Whether a text stands at a span of a source: the span begins and ends between two
characters of the source, and the text is what lies between. -/
def Span.Holds (s : Span) (source text : String) : Prop :=
  ∃ before after, source = before ++ text ++ after ∧
    before.utf8ByteSize = s.start ∧ (before ++ text).utf8ByteSize = s.stop

theorem holds_ofList (before piece after : List Char) :
    Span.Holds ⟨byteLength before, byteLength before + byteLength piece⟩
      (String.ofList (before ++ piece ++ after)) (String.ofList piece) := by
  refine ⟨String.ofList before, String.ofList after, ?_, utf8ByteSize_ofList before, ?_⟩
  · rw [String.ofList_append, String.ofList_append]
  · rw [String.utf8ByteSize_append, utf8ByteSize_ofList, utf8ByteSize_ofList]

namespace Lexer

variable {text rest line : List Char} {c : Char} {t : Token} {offset n : Nat}
  {lexemes : List Lexeme}

/-! ## Gaps -/

/-- What stands between tokens: separators, and comments with the end of their line. -/
inductive Gap : List Char → Prop
  | nil : Gap []
  | separator {c : Char} {text : List Char} :
    isSeparator c = true → Gap text → Gap (c :: text)
  | comment {line text : List Char} :
    '\n' ∉ line → Gap text → Gap ('/' :: '/' :: (line ++ '\n' :: text))

/-- The stretches in front of each of the lexemes, from `start` on. -/
def gaps (start : Nat) : List Lexeme → List Span
  | [] => []
  | l :: rest => ⟨start, l.span.start⟩ :: gaps l.span.stop rest

/-- Where the last of the lexemes ends, of none at `start`. -/
def lastStop (start : Nat) : List Lexeme → Nat
  | [] => start
  | l :: rest => lastStop l.span.stop rest

theorem Gap.of_newline (h : Gap ('\n' :: text)) : Gap text := by
  cases h with
  | separator _ h => exact h

/-! ## A text as gaps and tokens -/

/-- A text from byte `offset` on falls into the texts of its lexemes and the gaps. The
last gap ends like a line does. -/
inductive Tiles : Nat → List Char → List Lexeme → Prop
  | last {offset : Nat} {gap : List Char} : Gap (gap ++ ['\n']) → Tiles offset gap []
  | token {offset : Nat} {gap piece rest : List Char} {t : Token} {lexemes : List Lexeme} :
    Gap gap → piece ≠ [] → read piece = .token t piece.length →
    Tiles (offset + byteLength gap + byteLength piece) rest lexemes →
    Tiles offset (gap ++ piece ++ rest)
      (⟨t, ⟨offset + byteLength gap, offset + byteLength gap + byteLength piece⟩⟩ :: lexemes)

/-- A separator in front belongs to the first gap. -/
theorem Tiles.separator (hc : isSeparator c = true) (h : Tiles (offset + c.utf8Size) text lexemes) :
    Tiles offset (c :: text) lexemes := by
  cases h with
  | last hgap => exact .last (.separator hc hgap)
  | @token _ gap piece rest t lexemes hgap hne hread hrest =>
    have hbytes : offset + c.utf8Size + byteLength gap = offset + byteLength (c :: gap) := by
      rw [byteLength, Nat.add_assoc]
    rw [hbytes] at hrest ⊢
    exact .token (.separator hc hgap) hne hread hrest

theorem Tiles.separators (hall : ∀ d ∈ line, isSeparator d = true)
    (h : Tiles (offset + byteLength line) text lexemes) : Tiles offset (line ++ text) lexemes := by
  induction line generalizing offset with
  | nil => exact h
  | cons c line ih =>
    rw [byteLength, ← Nat.add_assoc] at h
    exact (ih (fun d hd => hall d (List.mem_cons_of_mem c hd)) h).separator
      (hall c (List.mem_cons_self ..))

/-- A comment in front belongs to the first gap: behind it the text or the line ends. -/
theorem Tiles.comment (hline : '\n' ∉ line) (hend : ∀ c ∈ text.head?, c = '\n')
    (h : Tiles (offset + byteLength ('/' :: '/' :: line)) text lexemes) :
    Tiles offset ('/' :: '/' :: line ++ text) lexemes := by
  cases h with
  | last hgap =>
    refine .last ?_
    cases text with
    | nil =>
      have hcomment := Gap.comment hline .nil
      simpa using hcomment
    | cons c text =>
      obtain rfl := hend c rfl
      have hcomment := Gap.comment hline hgap.of_newline
      simpa using hcomment
  | @token _ gap piece rest t lexemes hgap hne hread hrest =>
    cases gap with
    | nil =>
      -- no token begins with a line end
      obtain ⟨c, piece, rfl⟩ := List.exists_cons_of_ne_nil hne
      obtain rfl := hend c rfl
      rw [read_separator rfl] at hread
      cases hread
    | cons c gap =>
      obtain rfl := hend c rfl
      have hbytes : offset + byteLength ('/' :: '/' :: line) + byteLength ('\n' :: gap)
          = offset + byteLength ('/' :: '/' :: (line ++ '\n' :: gap)) := by
        rw [Nat.add_assoc, ← byteLength_append]
        rfl
      rw [hbytes] at hrest ⊢
      have htiles := Tiles.token (.comment hline hgap.of_newline) hne hread hrest
      simpa using htiles

/-! ## What is skipped -/

theorem readWord_ne_skipped {k : Nat} : readWord text k ≠ .skipped n := by
  unfold readWord
  repeat' split
  all_goals exact Reading.noConfusion

theorem readForm_ne_skipped {opening after : Nat} {run : Run} {token : List Char → Token} :
    readForm text opening run after token ≠ .skipped n := by
  unfold readForm
  dsimp only
  repeat' split
  · exact Reading.noConfusion
  · exact readWord_ne_skipped
  · exact Reading.noConfusion
  · exact readWord_ne_skipped

/-- What is skipped at the front of a text is a comment or separators. -/
theorem read_skipped (h : read text = .skipped n) :
    (∃ rest, text = '/' :: '/' :: rest ∧ n = (firstLine rest).length + 2) ∨
      ∀ d ∈ text.take n, isSeparator d = true := by
  cases front text with
  | comment rest => exact .inl ⟨rest, rfl, (Reading.skipped.inj h).symm⟩
  | bracket hbracket rest =>
    rw [hbracket rest] at h
    cases h
  | quoted rest =>
    rw [read] at h
    split at h <;> cases h
  | single rest =>
    rw [read] at h
    split at h <;> cases h
  | pattern rest =>
    rw [read] at h
    exact (readForm_ne_skipped h).elim
  | date rest =>
    rw [read] at h
    exact (readForm_ne_skipped h).elim
  | unmarked hunmarked =>
    right
    cases text with
    | nil => simp
    | cons c rest =>
      rw [read_of_unmarked hunmarked] at h
      split at h
      · rename_i hc
        obtain rfl := Reading.skipped.inj h
        rw [List.take_succ_cons, ← List.prefix_iff_eq_take.mp (List.takeWhile_prefix isSeparator)]
        intro d hd
        rcases List.mem_cons.mp hd with rfl | hd
        · exact hc
        · exact List.all_eq_true.mp List.all_takeWhile d hd
      · exact (readWord_ne_skipped h).elim

/-- A text is its first line and what is behind it: nothing, or a line end first. -/
theorem firstLine_append (text : List Char) :
    '\n' ∉ firstLine text ∧ ∃ tail, text = firstLine text ++ tail ∧ ∀ c ∈ tail.head?, c = '\n' := by
  refine ⟨fun hmem => ?_, text.dropWhile (· != '\n'), List.takeWhile_append_dropWhile.symm, ?_⟩
  · have hline := List.all_eq_true.mp List.all_takeWhile _ hmem
    simp at hline
  · intro c hc
    have hend := List.head?_dropWhile_not (· != '\n') text
    rw [hc] at hend
    simpa using hend

/-- **The lexemes of a text tile it.** The induction is on the readings: in front of a
token there is an empty gap, and what is skipped joins the gap behind it. -/
theorem Lexes.tiles (h : Lexes offset text lexemes) : Tiles offset text lexemes := by
  induction h with
  | nil => exact .last (.separator rfl .nil)
  | @token offset n text t lexemes hread hn _ ih =>
    obtain ⟨hlength, halone⟩ := read_take hread
    have htake : (text.take n).length = n := List.length_take_of_le hlength
    have hne : text.take n ≠ [] := List.ne_nil_of_length_pos (htake.symm ▸ hn)
    have hread' : read (text.take n) = .token t (text.take n).length := by
      rw [htake]
      exact halone
    have htiles : Tiles offset ([] ++ text.take n ++ text.drop n) _ := .token .nil hne hread' ih
    rwa [List.nil_append, List.take_append_drop] at htiles
  | @skipped offset n text lexemes hread hn _ ih =>
    rcases read_skipped hread with ⟨rest, rfl, rfl⟩ | hall
    · obtain ⟨hline, tail, hrest, hend⟩ := firstLine_append rest
      generalize firstLine rest = line at hline hrest ih
      subst hrest
      rw [List.take_succ_cons, List.take_succ_cons, List.drop_succ_cons, List.drop_succ_cons,
        List.take_left, List.drop_left] at ih
      exact ih.comment hline hend
    · have htiles := Tiles.separators hall ih
      rwa [List.take_append_drop] at htiles

/-! ## What the tiles say about the spans -/

theorem Tiles.le_start (h : Tiles offset text lexemes) : ∀ l ∈ lexemes, offset ≤ l.span.start := by
  induction h with
  | last => simp
  | token _ _ _ _ ih =>
    intro l hl
    rcases List.mem_cons.mp hl with rfl | hl
    · exact Nat.le_add_right _ _
    · have := ih l hl
      omega

theorem byteLength_pos (hne : text ≠ []) : 0 < byteLength text := by
  obtain ⟨c, text, rfl⟩ := List.exists_cons_of_ne_nil hne
  exact Nat.add_pos_left c.utf8Size_pos _

theorem Tiles.nonempty (h : Tiles offset text lexemes) :
    ∀ l ∈ lexemes, l.span.start < l.span.stop := by
  induction h with
  | last => simp
  | token _ hne _ _ ih =>
    intro l hl
    rcases List.mem_cons.mp hl with rfl | hl
    · exact Nat.lt_add_of_pos_right (byteLength_pos hne)
    · exact ih l hl

theorem Tiles.ordered (h : Tiles offset text lexemes) :
    lexemes.Pairwise fun a b => a.span.stop ≤ b.span.start := by
  induction h with
  | last => exact .nil
  | token _ _ _ hrest ih => exact .cons hrest.le_start ih

/-! ## What the tiles say about the texts -/

/-- A text that is read as one token, to its last character, is tokenized to it. -/
theorem tokenize_alone (hne : piece ≠ []) (hread : read piece = .token t piece.length) :
    tokenize (String.ofList piece) = .ok [⟨t, ⟨0, (String.ofList piece).utf8ByteSize⟩⟩] := by
  have hlexes : Lexes 0 piece [⟨t, ⟨0, byteLength piece⟩⟩] := by
    have hend : Lexes (0 + byteLength (piece.take piece.length)) (piece.drop piece.length) [] := by
      rw [List.drop_length]
      exact .nil _
    have htoken := Lexes.token hread (List.length_pos_iff.mpr hne) hend
    rwa [List.take_length, Nat.zero_add] at htoken
  unfold tokenize
  rw [String.toList_ofList, utf8ByteSize_ofList]
  exact hlexes.scan (Nat.le_refl _)

/-- At the span of each token stands what alone is that token. -/
theorem Tiles.alone (h : Tiles offset text lexemes) (before : List Char)
    (hbefore : byteLength before = offset) :
    ∀ l ∈ lexemes, ∃ piece, l.span.Holds (String.ofList (before ++ text)) piece ∧
      tokenize piece = .ok [⟨l.token, ⟨0, piece.utf8ByteSize⟩⟩] := by
  induction h generalizing before with
  | last => simp
  | @token offset gap piece rest t lexemes _ hne hread _ ih =>
    subst hbefore
    intro l hl
    rcases List.mem_cons.mp hl with rfl | hl
    · have hholds := holds_ofList (before ++ gap) piece rest
      rw [byteLength_append] at hholds
      exact ⟨_, by simpa using hholds, tokenize_alone hne hread⟩
    · have hrest := ih (before ++ gap ++ piece)
        (by rw [byteLength_append, byteLength_append]) l hl
      simpa using hrest

/-- Between two tokens stands a gap. -/
theorem Tiles.between (h : Tiles offset text lexemes) (before : List Char)
    (hbefore : byteLength before = offset) :
    ∀ s ∈ gaps offset lexemes, ∃ gap, s.Holds (String.ofList (before ++ text)) gap ∧
      Gap gap.toList := by
  induction h generalizing before with
  | last => simp [gaps]
  | @token offset gap piece rest t lexemes hgap _ _ _ ih =>
    subst hbefore
    intro s hs
    rcases List.mem_cons.mp hs with rfl | hs
    · have hholds := holds_ofList before gap (piece ++ rest)
      exact ⟨_, by simpa using hholds, by rwa [String.toList_ofList]⟩
    · have hrest := ih (before ++ gap ++ piece)
        (by rw [byteLength_append, byteLength_append]) s hs
      simpa using hrest

/-- Behind the last token stands a gap that ends like a line does. -/
theorem Tiles.behind (h : Tiles offset text lexemes) (before : List Char)
    (hbefore : byteLength before = offset) :
    ∃ gap, Span.Holds ⟨lastStop offset lexemes, (String.ofList (before ++ text)).utf8ByteSize⟩
      (String.ofList (before ++ text)) gap ∧ Gap (gap.toList ++ ['\n']) := by
  induction h generalizing before with
  | @last offset gap hgap =>
    subst hbefore
    have hholds := holds_ofList before gap []
    rw [List.append_nil, ← byteLength_append, ← utf8ByteSize_ofList (before ++ gap)] at hholds
    exact ⟨_, hholds, by rwa [String.toList_ofList]⟩
  | @token offset gap piece rest t lexemes _ _ _ _ ih =>
    subst hbefore
    have hrest := ih (before ++ gap ++ piece)
      (by rw [byteLength_append, byteLength_append])
    simpa [lastStop] using hrest

/-! ## Tokens and gaps of a program -/

/-- How the tokens of a source lie in it. -/
structure Coverage (source : String) (lexemes : List Lexeme) : Prop where
  /-- Every token takes some bytes. -/
  nonempty : ∀ l ∈ lexemes, l.span.start < l.span.stop
  /-- Every token ends before the next ones start. -/
  ordered : lexemes.Pairwise fun a b => a.span.stop ≤ b.span.start
  /-- Every token lies in the source, between two characters, and what stands there is
  tokenized to this token alone. -/
  alone : ∀ l ∈ lexemes, ∃ piece, l.span.Holds source piece ∧
    tokenize piece = .ok [⟨l.token, ⟨0, piece.utf8ByteSize⟩⟩]
  /-- In front of every token, from the one before it on, stand separators and comments. -/
  between : ∀ s ∈ gaps 0 lexemes, ∃ gap, s.Holds source gap ∧ Gap gap.toList
  /-- Behind the last token stand separators and comments, to the end of the source. -/
  behind : ∃ gap, Span.Holds ⟨lastStop 0 lexemes, source.utf8ByteSize⟩ source gap ∧
    Gap (gap.toList ++ ['\n'])

/-- **Nothing is lost between tokens**: a source that is tokenized consists of its tokens,
each of which is that token alone, and of gaps. -/
theorem tokenize_coverage {source : String} (h : tokenize source = .ok lexemes) :
    Coverage source lexemes := by
  have hlexes : Lexes 0 source.toList lexemes := lexes_of_scan h (Nat.le_refl _)
  have htiles := hlexes.tiles
  have hsource : String.ofList ([] ++ source.toList) = source := String.ofList_toList
  exact {
    nonempty := htiles.nonempty
    ordered := htiles.ordered
    alone := hsource ▸ htiles.alone [] rfl
    between := hsource ▸ htiles.between [] rfl
    behind := hsource ▸ htiles.behind [] rfl }

/-- A pattern with a blank in it, comments and texts beyond ASCII, a word that has slashes,
and a comment that the source ends in. -/
theorem tokenize_coverage_of_comments :
    let source := "~r/é b/i, // ü\n'\\'n'-1 /t#x//y[ // end"
    let lexemes : List Lexeme :=
      [⟨.pattern "é b" "i", ⟨0, 9⟩⟩, ⟨.text "'n", ⟨17, 22⟩⟩, ⟨.int (-1), ⟨22, 24⟩⟩,
        ⟨.attr "/t#x//y", ⟨25, 32⟩⟩, ⟨.openBracket, ⟨32, 33⟩⟩]
    tokenize source = .ok lexemes ∧ Coverage source lexemes := by
  have htokens : tokenize "~r/é b/i, // ü\n'\\'n'-1 /t#x//y[ // end"
      = .ok [⟨.pattern "é b" "i", ⟨0, 9⟩⟩, ⟨.text "'n", ⟨17, 22⟩⟩, ⟨.int (-1), ⟨22, 24⟩⟩,
        ⟨.attr "/t#x//y", ⟨25, 32⟩⟩, ⟨.openBracket, ⟨32, 33⟩⟩] := by
    rfl
  exact ⟨htokens, tokenize_coverage htokens⟩

end Lexer

end EntityBase
