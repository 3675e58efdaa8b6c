import EntityBase.Proofs.Decimal.Reading
import EntityBase.Proofs.Export.Literal
import EntityBase.Proofs.Machine.Sequel
import EntityBase.Proofs.Token.Word

/-!
# Printed values read back

The display of a value and the tokens of a program are said apart from one another.
`Value.Readable` are the values that have a display which is a program again: scalars,
words as a source has them, and lists and maps of such values. The display of a
readable value writes it (`render_writes`), by induction over the value, and so the
displays of several, with blanks between them, are a program that pushes them.
-/

namespace EntityBase

open Machine

/-! ## Quoted words -/

namespace QuotedWord

/-- Stars in front of something are the stars of an escape. -/
theorem render_ofChars {text : List Char} (hstar : text.head? = some '*')
    (hname : text.dropWhile (· == '*') ≠ []) : (ofChars text).render = text := by
  have hstars : text.takeWhile (· == '*')
      = List.replicate (text.takeWhile (· == '*')).length '*' :=
    List.eq_replicate_iff.2 ⟨rfl, fun c hc =>
      beq_iff_eq.1 (List.all_eq_true.1 List.all_takeWhile c hc)⟩
  have htext := List.takeWhile_append_dropWhile (p := (· == '*')) (l := text)
  have hne : text.takeWhile (· == '*') ≠ [] := by
    cases text with
    | nil => cases hstar
    | cons c text =>
      obtain rfl := Option.some.inj hstar
      simp
  unfold ofChars
  split
  · rename_i star stars c rest htake hdrop
    rw [htake, hdrop] at htext
    rw [htake] at hstars
    rw [render, String.toList_ofList, ← hstars]
    exact htext
  · rename_i hform
    obtain ⟨star, stars, htake⟩ := List.exists_cons_of_ne_nil hne
    obtain ⟨c, rest, hdrop⟩ := List.exists_cons_of_ne_nil hname
    exact absurd hdrop (hform star stars c rest htake)

end QuotedWord

/-- A token that stands for a quoted word keeps the characters it was read from. -/
theorem isVerbatim_of_standsFor? {now : Instant} {t : Token} {q : QuotedWord}
    (h : standsFor? now t = some (.quoted q)) : Lexer.isVerbatim t = true := by
  cases t with
  | word | ref | escaped | attr => rfl
  | pattern source flags =>
    obtain ⟨p, -, hp⟩ := Option.map_eq_some_iff.1 h
    cases hp
  | date text =>
    obtain ⟨d, -, hd⟩ := Option.map_eq_some_iff.1 h
    cases hd
  | _ => cases h

/-- What is none of the other forms is a reference to a name or a bare word. -/
theorem eq_reference_of_ofWord {w : List Char} {t : Token} (h : Lexer.ofWord w = some t)
    (ht : Lexer.isVerbatim t = true) : t = Lexer.ofWord.reference w := by
  unfold Lexer.ofWord at h
  split at h
  · cases h
    cases ht
  · cases h
    cases ht
  · cases h
    cases ht
  split at h
  · split at h
    · cases h
      cases ht
    · cases h
  split at h
  · cases h
    cases ht
  split at h
  · cases h
    cases ht
  · exact (Option.some.inj h).symm

/-- **A quoted word is written as it was read.** -/
theorem render_of_ofWord {now : Instant} {w : List Char} {t : Token} {q : QuotedWord}
    (ht : Lexer.ofWord w = some t) (hq : standsFor? now t = some (.quoted q)) :
    q.render = w := by
  have hword (h : standsFor? now (.word (String.ofList w)) = some (.quoted q)) : q.render = w := by
    cases h
    exact String.toList_ofList
  rw [eq_reference_of_ofWord ht (isVerbatim_of_standsFor? hq)] at hq
  rw [Lexer.ofWord.reference.eq_def] at hq
  split at hq
  · split at hq
    · cases hq
      exact congrArg _ String.toList_ofList
    · exact hword hq
  · split at hq
    · cases hq
    · exact hword hq
  · split at hq
    · rename_i hname
      cases hq
      rw [QuotedWord.ofText, String.toList_ofList]
      refine QuotedWord.render_ofChars rfl fun hnil => ?_
      rw [hnil] at hname
      cases hname
    · exact hword hq
  · split at hq
    · cases hq
      exact String.toList_ofList
    · exact hword hq
  · exact hword hq

/-! ## Values -/

/-- A quoted word as a literal of some source has it. -/
def QuotedWord.InSource (q : QuotedWord) : Prop :=
  ∃ source program, Lexer.tokenize source = .ok program ∧
    ∃ l ∈ program, ∀ now, standsFor? now l.token = some (.quoted q)

namespace Value

mutual

/-- The values that can be read from their display. Integers have 64 bits; a double is
finite and its text is read as no other double; a quoted word is one of a source and
does not begin with a tilde; and the fields of a map are in order. -/
def Readable : Value → Prop
  | .scalar .nil | .scalar (.bool _) | .scalar (.text _) => True
  | .scalar (.int n) => Binary64.fitsInt64 n = true
  | .scalar (.float x) => Binary64.isFinite x = true ∧
      ∀ y, Lexer.float? (Decimal.displayed.text x).toList = some y → y = x
  | .scalar (.quoted q) => q.InSource ∧ q.render.head? ≠ some '~'
  | .list items => ReadableItems items
  | .map fields => Entries.Sorted fields ∧ ReadableFields fields
  | _ => False

def ReadableItems : List Value → Prop
  | [] => True
  | v :: rest => v.Readable ∧ ReadableItems rest

def ReadableFields : List (String × Value) → Prop
  | [] => True
  | (_, v) :: rest => v.Readable ∧ ReadableFields rest

end

theorem renderItems_eq_spaced (items : List Value) :
    renderItems items = Json.spaced (items.map render) := by
  induction items with
  | nil => rfl
  | cons v rest ih =>
    cases rest with
    | nil => rfl
    | cons u rest =>
      rw [renderItems, ih]
      · rfl
      · exact List.cons_ne_nil _ _

theorem renderFields_eq_spaced (fields : List (String × Value)) :
    renderFields fields
      = Json.spaced (fields.map fun e => Text.Quoted.encode e.1 ++ ' ' :: e.2.render) := by
  induction fields with
  | nil => rfl
  | cons e rest ih =>
    cases rest with
    | nil => rfl
    | cons u rest =>
      obtain ⟨k, v⟩ := e
      rw [renderFields, ih]
      · simp [Json.spaced]
      · exact List.cons_ne_nil _ _

variable {now : Instant}

/-- A word of a source writes itself, wherever it is written. -/
theorem quoted_writes {q : QuotedWord} (hq : q.InSource) (htilde : q.render.head? ≠ some '~') :
    Writes now q.render [.quoted q] := by
  obtain ⟨source, program, hsource, l, hl, hstands⟩ := hq
  have htokens := (Lexer.lexes_of_scan hsource (Nat.le_refl _)).toTokens
  obtain ⟨w, hw, ht⟩ := Lexer.isWord_of_tokens htokens (List.mem_map_of_mem hl)
    (isVerbatim_of_standsFor? (hstands now))
  obtain rfl := render_of_ofWord ht (hstands now)
  exact writes_token (hw.spells htilde ht) (hstands now)

mutual

/-- **The display of a readable value writes the value.** -/
theorem render_writes : (v : Value) → v.Readable → Writes now v.render [v]
  | .scalar .nil, _ => writes_token (t := .nil) (Lexer.spells_word rfl ⟨'n', by decide⟩ rfl) rfl
  | .scalar (.bool true), _ =>
    writes_token (t := .bool true) (Lexer.spells_word rfl ⟨'t', by decide⟩ rfl) rfl
  | .scalar (.bool false), _ =>
    writes_token (t := .bool false) (Lexer.spells_word rfl ⟨'f', by decide⟩ rfl) rfl
  | .scalar (.int n), h => writes_token (Lexer.spells_renderInt h) rfl
  | .scalar (.float x), h => by
    obtain ⟨y, hy⟩ : ∃ y, Lexer.float? (Decimal.displayed.text x).toList = some y :=
      Decimal.exists_float?_text (.inl rfl) h.1
    obtain rfl := h.2 y hy
    exact writes_token (Lexer.spells_of_float? hy) rfl
  | .scalar (.text s), _ => writes_encode s
  | .scalar (.quoted _), h => quoted_writes h.1 h.2
  | .list items, h => by
    rw [render, renderItems_eq_spaced]
    have hitems := writes_spaced render (fun v => [v]) items (items_write items h)
    rw [List.flatMap_singleton'] at hitems
    exact hitems.list
  | .map fields, h => by
    rw [render, renderFields_eq_spaced]
    have hfields := writes_spaced _ (fun e => [.text e.1, e.2]) fields fun e he =>
      (writes_encode e.1).append ' ' (by decide) (fields_write fields h.2 e he)
    have hmap := Writes.fields hfields
    rwa [h.1.ofList_eq fun _ => Iff.rfl] at hmap

theorem items_write : (items : List Value) → ReadableItems items →
    ∀ v ∈ items, Writes now v.render [v]
  | [], _ => by simp
  | v :: rest, h => List.forall_mem_cons.2 ⟨render_writes v h.1, items_write rest h.2⟩

theorem fields_write : (fields : List (String × Value)) → ReadableFields fields →
    ∀ e ∈ fields, Writes now e.2.render [e.2]
  | [], _ => by simp
  | (_, v) :: rest, h => List.forall_mem_cons.2 ⟨render_writes v h.1, fields_write rest h.2⟩

end

end Value

/-! ## Programs -/

namespace Machine

theorem spaced_eq_intercalate (texts : List (List Char)) :
    Json.spaced texts = [' '].intercalate texts := by
  induction texts with
  | nil => rfl
  | cons t rest ih =>
    cases rest with
    | nil => simp [Json.spaced]
    | cons u rest =>
      rw [Json.spaced, ih, List.intercalate_cons_cons]
      · simp
      · exact List.cons_ne_nil _ _

/-- The displays of values with blanks between them. -/
theorem toList_displays (values : List Value) :
    (String.intercalate " " (values.map Value.display)).toList
      = Json.spaced (values.map Value.render) := by
  rw [String.toList_intercalate, spaced_eq_intercalate, List.map_map]
  congr 2
  exact funext fun v => String.toList_ofList

/-- Values that are no words are pushed one after the other. -/
theorem runValues_of_not_quoted {runList : List Value → Run Flow} {env : Env}
    {values : List Value} (h : ∀ v ∈ values, ∀ q, v ≠ .quoted q) (s : State) :
    runValues runList values env s = (.ok .next,
      { s with frame := { s.frame with items := values.reverse ++ s.frame.items } }) := by
  induction values generalizing s with
  | nil => rfl
  | cons v rest ih =>
    have hpush : runValue runList v env s = andNext (Run.push v) env s := by
      cases v with
      | scalar x =>
        cases x with
        | quoted q => exact absurd rfl (h _ (List.mem_cons_self ..) q)
        | _ => rfl
      | _ => rfl
    have hrest := ih (fun u hu => h u (List.mem_cons_of_mem _ hu))
      { s with frame := { s.frame with items := v :: s.frame.items } }
    rw [runValues_cons, hpush]
    refine hrest.trans ?_
    simp

/-- **Printed values read back.** On any arena with nothing open, the displays of readable
values, with blanks between them, are a program that ends well, and all that it does is
to push these values in their order on the items that are there. No word stands among the
values themselves; inside lists and maps, words are read back as they are. -/
theorem printed_values_read_back {terms : Terms} {a : Arena} (ha : a.AtTop) {values : List Value}
    (hreadable : ∀ v ∈ values, v.Readable) (hquoted : ∀ v ∈ values, ∀ q, v ≠ .quoted q) :
    Arena.runWith {} (String.intercalate " " (values.map Value.display)) terms a
      = (.ok (), a.setFrame { a.frame with items := values.reverse ++ a.frame.items }) := by
  have hwrites : Writes terms.now (Json.spaced (values.map Value.render)) values := by
    have hspaced : Writes terms.now _ _ :=
      writes_spaced Value.render (fun v => [v]) values fun v hv => v.render_writes (hreadable v hv)
    rwa [List.flatMap_singleton'] at hspaced
  obtain ⟨tokens, hspells, hcaptures⟩ := hwrites
  obtain ⟨program, hscan, htokens⟩ :=
    Lexer.scan_of_tokens (Lexer.tokens_of_spells hspells) _ 0 (Nat.le_refl _)
  have hsource : Lexer.tokenize (String.intercalate " " (values.map Value.display))
      = .ok program := by
    unfold Lexer.tokenize
    rw [toList_displays]
    exact hscan
  have hrun : Machine.runTokens (runList (terms.limits.maxDepth - a.depth)) [] program
      (a.env terms) a.state
      = (.ok (), { a.state with
          frame := { a.frame with items := values.reverse ++ a.frame.items } }) := by
    rw [runTokens_of_captures hcaptures program htokens, runValues_of_not_quoted hquoted]
    rfl
  obtain ⟨-, houtcome⟩ : Work.FollowsAt terms a (Arena.runProgram program) _ :=
    followsAt_runProgram ha program
  rw [hrun] at houtcome
  rw [Arena.runWith_default hsource, Arena.setFrame_eq_put]
  exact houtcome

/-- A negative number, a double with an exponent, a text with a quote and a line end, and
words inside a list and a map, read back on top of an item. -/
theorem printed_values_read_back_nested :
    let words : List Value := [.quoted (.word "/x"), .quoted (.escaped 2 "$y")]
    let values : List Value :=
      [.int (-3), .scalar (.float 1.5e-7), .text "a\"\n", .list [.nil, .map [("k", .list words)]]]
    let terms : Terms := { limits := {}, now := ⟨2024, 1, 1, 0, 0, 0, 0⟩ }
    let a : Arena := .new { items := [.bool true] }
    a.AtTop ∧ (∀ v ∈ values, v.Readable) ∧ (∀ v ∈ values, ∀ q, v ≠ .quoted q) ∧
      String.intercalate " " (values.map Value.display)
        = "-3 1.5e-7 \"a\\\"\\n\" [nil \x7b\"k\" [/x **$y]\x7d]" ∧
      Arena.runWith {} (String.intercalate " " (values.map Value.display)) terms a
        = (.ok (), a.setFrame { a.frame with items := values.reverse ++ a.frame.items }) := by
  intro words values terms a
  have ha : a.AtTop := ⟨rfl, rfl⟩
  have hsource : Lexer.tokenize "/x **$y"
      = .ok [⟨.word "/x", ⟨0, 2⟩⟩, ⟨.escaped "**$y", ⟨3, 7⟩⟩] := by rfl
  have hplain : (QuotedWord.word "/x").InSource :=
    ⟨_, _, hsource, _, List.mem_cons_self .., fun _ => rfl⟩
  have hescaped : (QuotedWord.escaped 2 "$y").InSource :=
    ⟨_, _, hsource, _, List.mem_cons_of_mem _ (List.mem_cons_self ..), fun _ => rfl⟩
  have hdouble : Lexer.float? (Decimal.displayed.text 1.5e-7).toList = some 1.5e-7 := by
    decide +kernel
  have hwords : Value.ReadableItems words := ⟨⟨hplain, by decide⟩, ⟨hescaped, by decide⟩, trivial⟩
  have hreadable : ∀ v ∈ values, v.Readable := by
    simp only [values, List.forall_mem_cons, List.not_mem_nil, false_imp_iff, implies_true,
      and_true]
    refine ⟨show Binary64.fitsInt64 (-3) = true by decide, ⟨by decide +kernel, fun y hy => ?_⟩,
      trivial, trivial,
      ⟨by simp [Entries.Sorted], hwords, trivial⟩, trivial⟩
    exact Option.some.inj (hy.symm.trans hdouble)
  have hquoted : ∀ v ∈ values, ∀ q, v ≠ .quoted q := by
    simp [values, Value.int, Value.text, Value.quoted]
  exact ⟨ha, hreadable, hquoted, by decide +kernel, printed_values_read_back ha hreadable hquoted⟩

end Machine

end EntityBase
