import EntityBase.Proofs.Export.Record
import EntityBase.Proofs.Store.Regular
import EntityBase.Proofs.Store.WellFormed

/-!
# The exported program — its lines as values

The text of an export writes the values that its evaluation goes through: the
word that fetches the entity set, for each definition its list and two words,
for all components one list of maps and two words, and the word that drops the
entity set.
-/

namespace EntityBase

open Machine

namespace Machine

variable {now : Instant} {text : List Char} {values : List Value}

/-- A run of word characters that is no number and has no mark in front writes
the word. -/
theorem writes_word (hw : text.all Lexer.isWordChar = true)
    (hhead : ∃ c, text.head? = some c ∧ c ≠ '/' ∧ c ≠ '~')
    (ht : Lexer.ofWord text = some (.word (String.ofList text))) :
    Writes now text [.quoted (.word (String.ofList text))] :=
  writes_token (Lexer.spells_word hw hhead ht) rfl

/-- Lines write one after another, and then what follows them. -/
theorem writes_lines {α : Type} (line : α → List Char) (value : α → List Value) (l : List α)
    (h : ∀ a ∈ l, ∃ text, line a = text ++ ['\n'] ∧ Writes now text (value a))
    (hrest : Writes now text values) :
    Writes now (l.flatMap line ++ text) (l.flatMap value ++ values) := by
  induction l with
  | nil => exact hrest
  | cons a rest ih =>
    obtain ⟨first, hline, hfirst⟩ := h a (List.mem_cons_self ..)
    have ih := ih fun b hb => h b (List.mem_cons_of_mem _ hb)
    have hsplit : (a :: rest).flatMap line ++ text
        = first ++ '\n' :: (rest.flatMap line ++ text) := by
      simp [hline]
    rw [hsplit, List.flatMap_cons, List.append_assoc]
    exact hfirst.append '\n' (by decide) ih

end Machine

namespace Store

/-- The values of the line of a definition. -/
def definitionValues (d : Definition) : List Value :=
  [d.value, .quoted (.word "!d"), .quoted (.word "+")]

/-- The map that stands for a component. -/
def componentValue (s : Store) (c : Component) : Value :=
  .map (Value.ofJsonFields (c.record (s.registry.byId? c.defId)).entries)

/-- The values of the lines of the components. -/
def componentValues (s : Store) : List Value :=
  if s.componentList.isEmpty then []
  else [.list (s.componentList.map s.componentValue), .quoted (.word "!c"), .quoted (.word "+")]

/-- The values of the exported program. -/
def exportValues (s : Store) : List Value :=
  .quoted (.word "@es") :: (s.registry.toList.flatMap definitionValues ++
    (s.componentValues ++ [.quoted (.word "drop")]))

/-- What of a store its export carries: every number is portable, no field is
named like a reserved one, and every component has a value for each property of
its definition that declares a default. -/
structure Exportable (s : Store) : Prop where
  defaults : ∀ n d, s.definition? (.id n) = some d → ∀ p ∈ d.properties, p.Portable
  attributes : ∀ id c, s.component? id = some c → Json.PortableFields c.attributes.entries
  unreserved : ∀ id c, s.component? id = some c → c.Unreserved
  covered : ∀ id c, s.component? id = some c → ∀ d, s.definition? (.id c.defId) = some d →
    ∀ p ∈ d.properties, p.default.isSome → (c.attributes.get? p.name).isSome

variable {s : Store} {now : Instant}

theorem definitionLine_writes {d : Definition} (hw : d.schema.WellFormed)
    (hp : ∀ p ∈ d.properties, p.Portable) :
    ∃ text, definitionLine d = text ++ ['\n'] ∧ Writes now text (definitionValues d) := by
  refine ⟨d.literal ++ ' ' :: ("!d".toList ++ ' ' :: "+".toList), by simp [definitionLine], ?_⟩
  have hbuild : Writes now "!d".toList [.quoted (.word "!d")] :=
    writes_word rfl ⟨'!', by decide⟩ rfl
  have hadd : Writes now "+".toList [.quoted (.word "+")] :=
    writes_word rfl ⟨'+', by decide⟩ rfl
  exact (Definition.literal_writes hw hp).append ' ' (by decide)
    (hbuild.append ' ' (by decide) hadd)

/-- A stored component, with what its line and its reading hang on. -/
structure Row (s : Store) (c : Component) (d : Definition) : Prop where
  definition : s.registry.byId? c.defId = some d
  assigned : c.entity ≠ unassigned
  defId_le : c.defId ≤ maxDefId
  wellFormed : c.WellFormed
  portable : Json.PortableFields c.attributes.entries
  unreserved : c.Unreserved
  covered : ∀ p ∈ d.properties, p.default.isSome → (c.attributes.get? p.name).isSome

theorem Exportable.row (he : s.Exportable) (hconsistent : s.Consistent) (hsound : s.registry.Sound)
    (hw : s.WellFormed) {c : Component} (hc : c ∈ s.componentList) : ∃ d, s.Row c d := by
  obtain ⟨⟨id, c⟩, hrow, rfl⟩ := List.mem_map.1 hc
  have hget : s.components.get? id = some c := Table.mem_entries_iff.1 hrow
  obtain ⟨hkeyed, hassigned, hregistered, -⟩ := hconsistent.row id c hget
  subst hkeyed
  have hrange := Registry.byId?_isSome_iff.1 hregistered
  obtain ⟨d, hd⟩ := Option.isSome_iff_exists.1 hregistered
  exact ⟨d, hd, hassigned, Nat.le_trans hrange.2 hsound.size_le, hw.row _ c hget,
    he.attributes _ c hget, he.unreserved _ c hget, he.covered _ c hget d hd⟩

theorem Row.componentLine_writes {c : Component} {d : Definition} (h : s.Row c d) :
    ∃ text, s.componentLine c = text ++ ['\n'] ∧ Writes now text [s.componentValue c] := by
  refine ⟨' ' :: ' ' :: (Json.object (c.record (s.registry.byId? c.defId)).entries).literal,
    by simp [componentLine], ?_⟩
  unfold componentValue
  rw [h.definition]
  have hrecord : Writes now (Json.object (c.record (some d)).entries).literal
      [.map (Value.ofJsonFields (c.record (some d)).entries)] :=
    Component.record_writes h.wellFormed h.portable h.assigned h.defId_le
  exact (hrecord.separator ' ' (by decide)).separator ' ' (by decide)

/-- The components write their list and the words that build and add them. -/
theorem componentLines_write (hrows : ∀ c ∈ s.componentList, ∃ d, s.Row c d) {rest : List Char}
    {values : List Value} (hrest : Writes now rest values) :
    Writes now (s.componentLines ++ rest) (s.componentValues ++ values) := by
  cases hlist : s.componentList with
  | nil =>
    -- without components there are no lines
    unfold componentLines componentValues
    rw [hlist]
    exact hrest
  | cons c others =>
    have hlines : s.componentLines
        = "[\n".toList ++ (s.componentList.flatMap s.componentLine ++ "] !c +\n".toList) := by
      unfold componentLines
      rw [hlist]
    have hvalues : s.componentValues = [.list (s.componentList.map s.componentValue),
        .quoted (.word "!c"), .quoted (.word "+")] := by
      unfold componentValues
      rw [hlist]
      rfl
    have hinner : Writes now (s.componentList.flatMap s.componentLine)
        (s.componentList.map s.componentValue) := by
      have hlinesWrite := writes_lines s.componentLine (fun c => [s.componentValue c])
        s.componentList (fun c hc => (hrows c hc).elim fun _ h => h.componentLine_writes)
        (@writes_nil now)
      rwa [List.append_nil, List.append_nil, ← List.map_eq_flatMap] at hlinesWrite
    have hbuild : Writes now "!c".toList [.quoted (.word "!c")] :=
      writes_word rfl ⟨'!', by decide⟩ rfl
    have hadd : Writes now "+".toList [.quoted (.word "+")] :=
      writes_word rfl ⟨'+', by decide⟩ rfl
    have hline := (hinner.separator '\n' (by decide)).list.append ' ' (by decide)
      (hbuild.append ' ' (by decide) (hadd.append '\n' (by decide) hrest))
    rw [hlines, hvalues]
    simpa using hline

/-- **The exported program** writes its values. -/
theorem exportChars_write (hdefinitions : ∀ d ∈ s.registry.toList,
      d.schema.WellFormed ∧ ∀ p ∈ d.properties, p.Portable)
    (hrows : ∀ c ∈ s.componentList, ∃ d, s.Row c d) :
    Writes now s.exportChars s.exportValues := by
  have hset : Writes now "@es".toList [.quoted (.word "@es")] :=
    writes_word rfl ⟨'@', by decide⟩ rfl
  have hdrop : Writes now "drop\n".toList [.quoted (.word "drop")] := by
    have hword : Writes now "drop".toList [.quoted (.word "drop")] :=
      writes_word rfl ⟨'d', by decide⟩ rfl
    exact hword.append '\n' (by decide) writes_nil
  exact hset.append '\n' (by decide) (writes_lines definitionLine definitionValues _
    (fun d hd => definitionLine_writes (hdefinitions d hd).1 (hdefinitions d hd).2)
    (componentLines_write hrows hdrop))

/-- What can be exported is written as its values. -/
theorem Exportable.exportText_writes (he : s.Exportable) (hconsistent : s.Consistent)
    (hsound : s.registry.Sound) (hw : s.WellFormed) :
    Writes now s.exportText.toList s.exportValues := by
  rw [exportText, String.toList_ofList]
  refine exportChars_write (fun d hd => ?_) fun c hc => he.row hconsistent hsound hw hc
  obtain ⟨n, hn⟩ := Registry.mem_toList_iff.1 hd
  exact ⟨hw.definition n d hn, he.defaults n d hn⟩

end Store

end EntityBase
