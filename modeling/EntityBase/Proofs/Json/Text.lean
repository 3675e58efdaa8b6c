import EntityBase.Proofs.Decimal.Text
import EntityBase.Proofs.WellFormed

/-!
# The text of stored data — which value it was

Well-formed data are known by their text (`text_injective`). A value that is
neither in quotes nor in brackets is one word, so its text ends where a comma or
a closing bracket stands; strings, arrays and objects say themselves where they
end. `render_append_inj` is the induction: two values with anything behind them
that may follow a value are equal where the texts are, and so is what follows.
-/

namespace EntityBase.Json

variable {a b : Json} {x y : List Char} {c : Char}

/-! ## Values of one word -/

/-- What a value in quotes or brackets starts with; nothing for a value of one word. -/
def opening : Json → Option Char
  | .string _ => some '"'
  | .array _ => some '['
  | .object _ => some '\x7b'
  | _ => none

theorem isWordChar_of_isNumeric (h : Decimal.IsNumeric c) : Lexer.isWordChar c = true := by
  rcases h with h | rfl | rfl | rfl | rfl
  · exact Lexer.isWordChar_of_isDigit h
  · decide
  · decide
  · decide
  · decide

theorem legible_stored : Decimal.stored.Legible := Or.inr rfl

/-- The text of a whole number is not that of a double. -/
theorem renderInt_ne_float {n : Int} {z : Float} (hz : Binary64.isFinite z = true) :
    renderInt n ≠ (Decimal.stored.text z).toList := by
  intro h
  have hplain {c : Char} (hc : c ∈ renderInt n) : c = '-' ∨ c.isDigit = true := by
    unfold renderInt at hc
    split at hc
    · rcases List.mem_cons.1 hc with rfl | hc
      · exact Or.inl rfl
      · exact Or.inr (Nat.isDigit_of_mem_toDigits (by decide) (by decide) hc)
    · exact Or.inr (Nat.isDigit_of_mem_toDigits (by decide) (by decide) hc)
  have hfractional := Decimal.fractional_text Decimal.stored hz
  rw [← h] at hfractional
  rcases hfractional with hc | hc
  · exact absurd (hplain hc) (by decide)
  · exact absurd (hplain hc) (by decide)

theorem renderInt_injective {n m : Int} (h : renderInt n = renderInt m) : n = m := by
  have hread := Lexer.integer?_renderInt n
  rw [h, Lexer.integer?_renderInt] at hread
  exact (Option.some.inj hread).symm

/-- The values of one word. -/
inductive Bare : Json → Prop where
  | null : Bare .null
  | bool (b : Bool) : Bare (.bool b)
  | int (n : Int) : Bare (.int n)
  | float (z : Float) (hz : Binary64.isFinite z = true) : Bare (.float z)

theorem bare_of_opening (hw : a.WellFormed) (h : a.opening = none) : Bare a := by
  cases a with
  | null => exact .null
  | bool b => exact .bool b
  | int n => exact .int n
  | float z => exact .float z hw
  | string s => cases h
  | array items => cases h
  | object fields => cases h

/-- A value of one word is a name or is written as a number. -/
theorem Bare.cases (h : Bare a) :
    (a = .null ∨ a = .bool true ∨ a = .bool false) ∨ ∀ c ∈ a.render, Decimal.IsNumeric c := by
  cases h with
  | null => exact Or.inl (Or.inl rfl)
  | bool b => cases b <;> simp
  | int n => exact Or.inr fun _ hc => Decimal.isNumeric_of_mem_renderInt hc
  | float z hz => exact Or.inr fun _ hc => Decimal.isNumeric_of_mem_text legible_stored hz hc

/-- The text of a value of one word is a word. -/
theorem Bare.isWordChar (h : Bare a) : ∀ c ∈ a.render, Lexer.isWordChar c = true := by
  rcases h.cases with (rfl | rfl | rfl) | hnumeric
  · exact List.all_eq_true.mp (by decide)
  · exact List.all_eq_true.mp (by decide)
  · exact List.all_eq_true.mp (by decide)
  · exact fun c hc => isWordChar_of_isNumeric (hnumeric c hc)

theorem Bare.render_ne_nil (h : Bare a) : a.render ≠ [] := by
  cases h with
  | null => nofun
  | bool b => cases b <;> nofun
  | int n =>
    obtain ⟨c, rest, hdigits, -⟩ := Lexer.head?_toDigits n.natAbs
    change renderInt n ≠ []
    unfold renderInt
    split
    · nofun
    · rw [hdigits]
      nofun
  | float z hz => exact Decimal.text_ne_nil _ hz

/-- The names are told apart by their first letters, and from all numbers. -/
theorem Bare.eq_of_name (h : Bare a) (hb : b = .null ∨ b = .bool true ∨ b = .bool false)
    (htext : a.render = b.render) : a = b := by
  rcases h.cases with ha | hnumeric
  · rcases ha with rfl | rfl | rfl
    · rcases hb with rfl | rfl | rfl
      · rfl
      · exact absurd htext (by decide)
      · exact absurd htext (by decide)
    · rcases hb with rfl | rfl | rfl
      · exact absurd htext (by decide)
      · rfl
      · exact absurd htext (by decide)
    · rcases hb with rfl | rfl | rfl
      · exact absurd htext (by decide)
      · exact absurd htext (by decide)
      · rfl
  · rw [htext] at hnumeric
    rcases hb with rfl | rfl | rfl
    · exact absurd (hnumeric 'n' (by decide)) (by unfold Decimal.IsNumeric; decide)
    · exact absurd (hnumeric 't' (by decide)) (by unfold Decimal.IsNumeric; decide)
    · exact absurd (hnumeric 'f' (by decide)) (by unfold Decimal.IsNumeric; decide)

/-- **Values of one word are known by their text.** -/
theorem Bare.eq_of_render_eq (ha : Bare a) (hb : Bare b) (h : a.render = b.render) : a = b := by
  cases hb with
  | null => exact ha.eq_of_name (Or.inl rfl) h
  | bool b => exact ha.eq_of_name (by cases b <;> simp) h
  | int m =>
    cases ha with
    | null => exact ((Bare.int m).eq_of_name (Or.inl rfl) h.symm).symm
    | bool b => exact ((Bare.int m).eq_of_name (by cases b <;> simp) h.symm).symm
    | int n => rw [renderInt_injective h]
    | float z hz => exact absurd h.symm (renderInt_ne_float hz)
  | float w hw =>
    cases ha with
    | null => exact ((Bare.float w hw).eq_of_name (Or.inl rfl) h.symm).symm
    | bool b => exact ((Bare.float w hw).eq_of_name (by cases b <;> simp) h.symm).symm
    | int n => exact absurd h (renderInt_ne_float hw)
    | float z hz => rw [Decimal.text_injective legible_stored hz hw (String.toList_inj.1 h)]

/-! ## What may follow a value -/

/-- Whether a text may follow a value: it is empty, or starts with what is in no word. -/
def Follows (rest : List Char) : Prop := ∀ c, rest.head? = some c → Lexer.isWordChar c = false

theorem follows_nil : Follows [] := nofun

theorem follows_cons (h : Lexer.isWordChar c = false) : Follows (c :: x) := by
  intro d hd
  rwa [← Option.some.inj hd]

theorem Follows.takeWhile (h : Follows x) : x.takeWhile Lexer.isWordChar = [] := by
  cases x with
  | nil => rfl
  | cons c rest => exact List.takeWhile_cons_of_neg (by rw [h c rfl]; decide)

/-- What a word and what follows it are is known by both together. -/
theorem eq_of_word_append {w w' : List Char} (hw : ∀ c ∈ w, Lexer.isWordChar c = true)
    (hw' : ∀ c ∈ w', Lexer.isWordChar c = true) (hx : Follows x) (hy : Follows y)
    (h : w ++ x = w' ++ y) : w = w' ∧ x = y := by
  have hwords := congrArg (List.takeWhile Lexer.isWordChar) h
  rw [List.takeWhile_append_of_pos hw, List.takeWhile_append_of_pos hw', hx.takeWhile,
    hy.takeWhile, List.append_nil, List.append_nil] at hwords
  subst hwords
  exact ⟨rfl, List.append_cancel_left h⟩

/-- A quoted text says itself where it ends. -/
theorem encode_append_inj {s t : String}
    (h : Text.Quoted.encode s ++ x = Text.Quoted.encode t ++ y) : s = t ∧ x = y := by
  unfold Text.Quoted.encode at h
  simp only [List.cons_append, List.append_assoc, List.nil_append, List.cons.injEq, true_and] at h
  have hread := Text.Quoted.decodeChars_encodeChars s.toList x
  rw [h, Text.Quoted.decodeChars_encodeChars] at hread
  obtain ⟨hchars, hrest⟩ := Prod.mk.inj (Option.some.inj hread)
  exact ⟨(String.toList_inj.1 hchars).symm, hrest.symm⟩

/-! ## The first character -/

/-- The first character of a value says how it opens. -/
theorem render_cons (hw : a.WellFormed) :
    ∃ c rest, a.render = c :: rest ∧ a.opening = if Lexer.isWordChar c then none else some c := by
  cases hopening : a.opening with
  | none =>
    have hbare := bare_of_opening hw hopening
    obtain ⟨c, rest, hrender⟩ := List.exists_cons_of_ne_nil hbare.render_ne_nil
    have hword := hbare.isWordChar c (hrender ▸ List.mem_cons_self ..)
    exact ⟨c, rest, hrender, by rw [if_pos hword]⟩
  | some c =>
    cases a with
    | null => cases hopening
    | bool b => cases hopening
    | int n => cases hopening
    | float z => cases hopening
    | string s => exact ⟨'"', _, rfl, hopening.symm⟩
    | array items => exact ⟨'[', _, rfl, hopening.symm⟩
    | object fields => exact ⟨'\x7b', _, rfl, hopening.symm⟩

/-- Values with one text open in the same way. -/
theorem opening_eq (ha : a.WellFormed) (hb : b.WellFormed) (h : a.render ++ x = b.render ++ y) :
    a.opening = b.opening := by
  obtain ⟨c, rest, hrender, hopening⟩ := render_cons ha
  obtain ⟨c', rest', hrender', hopening'⟩ := render_cons hb
  rw [hrender, hrender'] at h
  obtain rfl := (List.cons.inj h).1
  rw [hopening, hopening']

/-- No value starts with a closing bracket. -/
theorem render_append_ne (ha : a.WellFormed) : a.render ++ x ≠ ']' :: y := by
  obtain ⟨c, rest, hrender, hopening⟩ := render_cons ha
  rw [hrender]
  intro h
  obtain rfl := (List.cons.inj h).1
  cases a <;> cases hopening

/-! ## Values, items and fields -/

/-- What stands behind an item: the closing bracket, or a comma and further items. -/
def restItems : List Json → List Char
  | [] => [']']
  | rest => ',' :: renderItems rest

/-- What stands behind a field. -/
def restFields : List (String × Json) → List Char
  | [] => ['\x7d']
  | rest => ',' :: renderFields rest

theorem renderItems_cons (item : Json) (rest : List Json) :
    renderItems (item :: rest) = item.render ++ restItems rest := by
  cases rest <;> rfl

theorem renderFields_cons (key : String) (value : Json) (rest : List (String × Json)) :
    renderFields ((key, value) :: rest)
      = Text.Quoted.encode key ++ ':' :: (value.render ++ restFields rest) := by
  cases rest <;> rfl

/-- What stands behind an item is known where the items behind it are. -/
theorem renderItems_of_restItems {rest rest' : List Json}
    (h : restItems rest ++ x = restItems rest' ++ y) :
    renderItems rest ++ x = renderItems rest' ++ y := by
  cases rest with
  | nil =>
    cases rest' with
    | nil => exact h
    | cons => cases (List.cons.inj h).1
  | cons =>
    cases rest' with
    | nil => cases (List.cons.inj h).1
    | cons => exact (List.cons.inj h).2

theorem renderFields_of_restFields {rest rest' : List (String × Json)}
    (h : restFields rest ++ x = restFields rest' ++ y) :
    renderFields rest ++ x = renderFields rest' ++ y := by
  cases rest with
  | nil =>
    cases rest' with
    | nil => exact h
    | cons => cases (List.cons.inj h).1
  | cons =>
    cases rest' with
    | nil => cases (List.cons.inj h).1
    | cons => exact (List.cons.inj h).2

theorem follows_restItems (rest : List Json) : Follows (restItems rest ++ x) := by
  cases rest <;> exact follows_cons (by decide)

theorem follows_restFields (rest : List (String × Json)) : Follows (restFields rest ++ x) := by
  cases rest <;> exact follows_cons (by decide)

theorem render_append_inj_of_bare (ha : Bare a) (hb : Bare b) (hx : Follows x) (hy : Follows y)
    (h : a.render ++ x = b.render ++ y) : a = b ∧ x = y := by
  obtain ⟨hrender, hrest⟩ := eq_of_word_append ha.isWordChar hb.isWordChar hx hy h
  exact ⟨ha.eq_of_render_eq hb hrender, hrest⟩

mutual

/-- **A value and what follows it are known by their text.** -/
theorem render_append_inj : (a : Json) → {b : Json} → {x y : List Char} → a.WellFormed →
    b.WellFormed → Follows x → Follows y → a.render ++ x = b.render ++ y → a = b ∧ x = y
  | .null, _, _, _, ha, hb, hx, hy, h =>
    render_append_inj_of_bare .null (bare_of_opening hb (opening_eq ha hb h).symm) hx hy h
  | .bool b, _, _, _, ha, hb, hx, hy, h =>
    render_append_inj_of_bare (.bool b) (bare_of_opening hb (opening_eq ha hb h).symm) hx hy h
  | .int n, _, _, _, ha, hb, hx, hy, h =>
    render_append_inj_of_bare (.int n) (bare_of_opening hb (opening_eq ha hb h).symm) hx hy h
  | .float z, _, _, _, ha, hb, hx, hy, h =>
    render_append_inj_of_bare (.float z ha) (bare_of_opening hb (opening_eq ha hb h).symm) hx hy h
  | .string s, b, _, _, ha, hb, _, _, h => by
    have hopening := opening_eq ha hb h
    cases b with
    | string t =>
      obtain ⟨rfl, hrest⟩ := encode_append_inj h
      exact ⟨rfl, hrest⟩
    | _ => cases hopening
  | .array items, b, _, _, ha, hb, _, _, h => by
    have hopening := opening_eq ha hb h
    cases b with
    | array items' =>
      obtain ⟨rfl, hrest⟩ := renderItems_append_inj items ha hb (List.cons.inj h).2
      exact ⟨rfl, hrest⟩
    | _ => cases hopening
  | .object fields, b, _, _, ha, hb, _, _, h => by
    have hopening := opening_eq ha hb h
    cases b with
    | object fields' =>
      obtain ⟨rfl, hrest⟩ := renderFields_append_inj fields ha.2 hb.2 (List.cons.inj h).2
      exact ⟨rfl, hrest⟩
    | _ => cases hopening

theorem renderItems_append_inj : (items : List Json) → {items' : List Json} →
    {x y : List Char} → WellFormedItems items → WellFormedItems items' →
    renderItems items ++ x = renderItems items' ++ y → items = items' ∧ x = y
  | [], [], _, _, _, _, h => ⟨rfl, (List.cons.inj h).2⟩
  | [], item' :: rest', _, _, _, hw', h => by
    rw [renderItems_cons, List.append_assoc] at h
    exact absurd h.symm (render_append_ne hw'.1)
  | item :: rest, [], _, _, hw, _, h => by
    rw [renderItems_cons, List.append_assoc] at h
    exact absurd h (render_append_ne hw.1)
  | item :: rest, item' :: rest', _, _, hw, hw', h => by
    rw [renderItems_cons, renderItems_cons, List.append_assoc, List.append_assoc] at h
    obtain ⟨rfl, hrest⟩ := render_append_inj item hw.1 hw'.1 (follows_restItems rest)
      (follows_restItems rest') h
    obtain ⟨heq, hbehind⟩ :=
      renderItems_append_inj rest hw.2 hw'.2 (renderItems_of_restItems hrest)
    exact ⟨congrArg _ heq, hbehind⟩

theorem renderFields_append_inj : (fields : List (String × Json)) →
    {fields' : List (String × Json)} → {x y : List Char} → WellFormedFields fields →
    WellFormedFields fields' → renderFields fields ++ x = renderFields fields' ++ y →
    fields = fields' ∧ x = y
  | [], [], _, _, _, _, h => ⟨rfl, (List.cons.inj h).2⟩
  | [], (key', value') :: rest', _, _, _, _, h => by
    rw [renderFields_cons] at h
    cases (List.cons.inj h).1
  | (key, value) :: rest, [], _, _, _, _, h => by
    rw [renderFields_cons] at h
    cases (List.cons.inj h).1
  | (key, value) :: rest, (key', value') :: rest', _, _, hw, hw', h => by
    rw [renderFields_cons, renderFields_cons, List.append_assoc, List.append_assoc] at h
    obtain ⟨rfl, hcolon⟩ := encode_append_inj h
    rw [List.cons_append, List.cons_append, List.append_assoc, List.append_assoc] at hcolon
    have hvalues := (List.cons.inj hcolon).2
    obtain ⟨rfl, hrest⟩ := render_append_inj value hw.1 hw'.1 (follows_restFields rest)
      (follows_restFields rest') hvalues
    obtain ⟨heq, hbehind⟩ :=
      renderFields_append_inj rest hw.2 hw'.2 (renderFields_of_restFields hrest)
    exact ⟨congrArg _ heq, hbehind⟩

end

/-- **Well-formed data are known by their text.** -/
theorem text_injective (ha : a.WellFormed) (hb : b.WellFormed) (h : a.text = b.text) : a = b := by
  have hrender : a.render ++ [] = b.render ++ [] := by
    rw [List.append_nil, List.append_nil]
    exact String.ofList_injective h
  exact (render_append_inj a ha hb follows_nil follows_nil hrender).1

end EntityBase.Json
