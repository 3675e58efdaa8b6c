import EntityBase.Export
import EntityBase.Proofs.Machine.Spread
import EntityBase.Proofs.Table
import EntityBase.Proofs.Token.Number
import EntityBase.Proofs.Value.Data
import EntityBase.Proofs.WellFormed

/-!
# Literals — stored data as programs

A text **writes** values when it spells a program that a literal captures
as these values. What writes a value by itself can be written next to other
such texts, with blanks between them, and inside brackets.
`Json.literal_writes` is the induction over stored data: the literal of a
portable value writes the value.
-/

namespace EntityBase

namespace Machine

variable {now : Instant} {text text' : List Char} {values values' : List Value}

theorem Captures.append {tokens tokens' : List Token} (h : Captures now tokens values)
    (h' : Captures now tokens' values') :
    Captures now (tokens ++ tokens') (values ++ values') := by
  induction h with
  | nil => exact h'
  | token hv _ ih => exact .token hv ih
  | literal hopen hclose hinner hvalue _ _ ih =>
    rw [List.cons_append, List.append_assoc]
    exact .literal hopen hclose hinner hvalue ih

/-- Whether a text is a program that a literal captures as the values. -/
def Writes (now : Instant) (text : List Char) (values : List Value) : Prop :=
  ∃ tokens, Lexer.Spells text tokens ∧ Captures now tokens values

theorem writes_nil : Writes now [] [] := ⟨[], Lexer.spells_nil, .nil⟩

/-- A text of one token writes what the token stands for. -/
theorem writes_token {t : Token} {v : Value} (h : Lexer.Spells text [t])
    (hv : standsFor? now t = some v) : Writes now text [v] :=
  ⟨[t], h, .token hv .nil⟩

theorem writes_encode (s : String) : Writes now (Text.Quoted.encode s) [.text s] :=
  writes_token (Lexer.spells_encode s) rfl

/-- Two texts with a separator between them write one after the other. -/
theorem Writes.append (h : Writes now text values) (c : Char)
    (hc : Lexer.isSeparator c = true) (h' : Writes now text' values') :
    Writes now (text ++ c :: text') (values ++ values') := by
  obtain ⟨tokens, hspells, hcaptures⟩ := h
  obtain ⟨tokens', hspells', hcaptures'⟩ := h'
  exact ⟨tokens ++ tokens', hspells.append hc hspells', hcaptures.append hcaptures'⟩

theorem Writes.separator (c : Char) (hc : Lexer.isSeparator c = true)
    (h : Writes now text values) : Writes now (c :: text) values := by
  obtain ⟨tokens, hspells, hcaptures⟩ := h
  exact ⟨tokens, hspells.separator hc, hcaptures⟩

theorem Writes.list (h : Writes now text values) :
    Writes now ('[' :: (text ++ [']'])) [.list values] := by
  obtain ⟨tokens, hspells, hcaptures⟩ := h
  refine ⟨_, hspells.brackets, .literal rfl rfl hcaptures (fun span => ?_) .nil⟩
  simp [OpenLiteral.value]

theorem Writes.map {fields : List (String × Value)} (h : Writes now text values)
    (heven : values.length % 2 = 0) (hpairs : pairUp [] values = .ok fields) :
    Writes now ('\x7b' :: (text ++ ['\x7d'])) [.map fields] := by
  obtain ⟨tokens, hspells, hcaptures⟩ := h
  refine ⟨_, hspells.braces, .literal rfl rfl hcaptures (fun span => ?_) .nil⟩
  unfold OpenLiteral.value
  simp only [List.reverse_reverse, List.length_reverse, heven, if_true, hpairs]
  rfl

/-- Texts with blanks between them write one after another. -/
theorem writes_spaced {α : Type} (write : α → List Char) (value : α → List Value) (l : List α)
    (h : ∀ a ∈ l, Writes now (write a) (value a)) :
    Writes now (Json.spaced (l.map write)) (l.flatMap value) := by
  induction l with
  | nil => exact writes_nil
  | cons a rest ih =>
    have ha := h a (List.mem_cons_self ..)
    have ih := ih fun b hb => h b (List.mem_cons_of_mem _ hb)
    cases rest with
    | nil => simpa [Json.spaced] using ha
    | cons b rest => exact ha.append ' ' (by decide) ih

/-! ## Map literals -/

/-- Keys and values that follow one another. -/
def alternating (fields : List (String × Value)) : List Value :=
  fields.flatMap fun e => [.text e.1, e.2]

theorem length_alternating (fields : List (String × Value)) :
    (alternating fields).length = 2 * fields.length := by
  induction fields with
  | nil => rfl
  | cons e rest ih =>
    unfold alternating at ih ⊢
    rw [List.flatMap_cons, List.length_append, ih]
    simp only [List.length_cons, List.length_nil]
    omega

theorem pairUp_alternating (fields base : List (String × Value)) :
    pairUp base (alternating fields) = .ok (Entries.extend base fields) := by
  induction fields generalizing base with
  | nil => rfl
  | cons e rest ih => exact ih (Entries.insert e.1 e.2 base)

/-- Named texts in braces write the map of what each of them writes. -/
theorem Writes.fields {fields : List (String × Value)}
    (h : Writes now text (alternating fields)) :
    Writes now ('\x7b' :: (text ++ ['\x7d'])) [.map (Entries.ofList fields)] :=
  h.map (by rw [length_alternating]; omega) (pairUp_alternating fields [])

end Machine

/-! ## Stored data -/

namespace Json

open Machine

variable {now : Instant}

theorem literalItems_eq_map (items : List Json) : literalItems items = items.map literal := by
  induction items with
  | nil => rfl
  | cons item rest ih => rw [literalItems, ih, List.map_cons]

theorem literalFields_eq_map (fields : List (String × Json)) :
    literalFields fields = fields.map fun e => (e.1, literal e.2) := by
  induction fields with
  | nil => rfl
  | cons e rest ih => rw [literalFields, ih, List.map_cons]

/-- The fields of a map literal in the order in which they are written: the
reserved ones first. -/
def markersFirst {α : Type} (fields : List (String × α)) : List (String × α) :=
  (fields.filter fun e => isMarker e.1) ++ fields.filter fun e => !isMarker e.1

theorem mem_markersFirst {α : Type} {fields : List (String × α)} {e : String × α} :
    e ∈ markersFirst fields ↔ e ∈ fields := by
  unfold markersFirst
  cases hmarker : isMarker e.1 <;> simp [hmarker]

/-- Named literals in braces write the map of the fields, whatever their order. -/
theorem spacedFields_writes {fields : List (String × Json)} (hsorted : Entries.Sorted fields)
    (h : ∀ e ∈ fields, Writes now e.2.literal [Value.ofJson e.2]) :
    Writes now ('\x7b' :: (spacedFields (literalFields fields) ++ ['\x7d']))
      [.map (Value.ofJsonFields fields)] := by
  have htext : spacedFields (literalFields fields)
      = spaced ((markersFirst fields).map fun e =>
          Text.Quoted.encode e.1 ++ ' ' :: e.2.literal) := by
    rw [literalFields_eq_map]
    unfold spacedFields markersFirst
    simp [List.filter_map, Function.comp_def]
  have hwrites : Writes now (spacedFields (literalFields fields))
      (alternating ((markersFirst fields).map fun e => (e.1, Value.ofJson e.2))) := by
    rw [htext, alternating, List.flatMap_map]
    refine writes_spaced _ _ _ fun e he => ?_
    exact (writes_encode e.1).append ' ' (by decide) (h e (mem_markersFirst.1 he))
  -- the keys are distinct, so the order of insertion does not matter
  have hfields : Entries.ofList ((markersFirst fields).map fun e => (e.1, Value.ofJson e.2))
      = Value.ofJsonFields fields := by
    rw [Value.ofJsonFields_eq_map]
    refine (hsorted.map _).ofList_eq fun e => ?_
    simp only [List.mem_map, mem_markersFirst]
  rw [← hfields]
  exact hwrites.fields

mutual

/-- **The literal of portable data writes the data as a value.** -/
theorem literal_writes : (j : Json) → j.WellFormed → j.Portable →
    Writes now j.literal [Value.ofJson j]
  | .null, _, _ => writes_token (t := .nil) (Lexer.spells_word rfl ⟨'n', by decide⟩ rfl) rfl
  | .bool true, _, _ =>
    writes_token (t := .bool true) (Lexer.spells_word rfl ⟨'t', by decide⟩ rfl) rfl
  | .bool false, _, _ =>
    writes_token (t := .bool false) (Lexer.spells_word rfl ⟨'f', by decide⟩ rfl) rfl
  | .int n, _, hp => by
    have hfits : Binary64.fitsInt64 n = true := hp
    have hvalue : Value.ofJson (.int n) = .int n := if_pos hfits
    rw [hvalue]
    exact writes_token (Lexer.spells_renderInt hfits) rfl
  | .float x, _, hp => writes_token (Lexer.spells_of_float? hp.2) rfl
  | .string s, _, _ => writes_encode s
  | .array items, hw, hp => by
    have hitems : Writes now (spaced (literalItems items)) (Value.ofJsonItems items) := by
      have := writes_spaced literal (fun j => [Value.ofJson j]) items (items_write items hw hp)
      rwa [← literalItems_eq_map, ← List.map_eq_flatMap, ← Value.ofJsonItems_eq_map] at this
    exact hitems.list
  | .object fields, hw, hp => spacedFields_writes hw.1 (fields_write fields hw.2 hp)

theorem items_write : (items : List Json) → WellFormedItems items → PortableItems items →
    ∀ item ∈ items, Writes now item.literal [Value.ofJson item]
  | [], _, _ => by simp
  | item :: rest, hw, hp =>
    List.forall_mem_cons.2 ⟨literal_writes item hw.1 hp.1, items_write rest hw.2 hp.2⟩

theorem fields_write : (fields : List (String × Json)) → WellFormedFields fields →
    PortableFields fields → ∀ e ∈ fields, Writes now e.2.literal [Value.ofJson e.2]
  | [], _, _ => by simp
  | (_, value) :: rest, hw, hp =>
    List.forall_mem_cons.2 ⟨literal_writes value hw.1 hp.1, fields_write rest hw.2 hp.2⟩

end

end Json

end EntityBase
