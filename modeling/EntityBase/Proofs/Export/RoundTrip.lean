import EntityBase.Database
import EntityBase.Proofs.Export.Program
import EntityBase.Proofs.Machine.Building
import EntityBase.Proofs.Store.Copy

/-!
# The round trip — an export builds its store again

The two halves meet at the values of the program: the exported text writes
them, and evaluating them over a store without anything leads to a copy. The
definitions come first and get their ids again; the records then find their
definitions by hash in the copy of the registry, so they are read as the
components that they were written from, and adding these gives the rows.

`export_rebuilds` says so of every store that calls with well-formed data lead
to, as far as its data can be exported (`Store.Exportable`).
-/

namespace EntityBase

open Machine

namespace Store

variable {s : Store} {shadowing : Bool} {runList : List Value → Run Flow} {env : Env}
  {copy : Registry}

/-- The definitions of a sound registry, evaluated one after another, lead to a
copy of it. -/
theorem leads_definitions (houter : env.outer = []) {r : Registry} (hr : r.Sound)
    (hdistinct : shadowing = false → r.DistinctUris)
    (hp : ∀ d ∈ r.toList, ∀ p ∈ d.properties, p.Portable) (rest : List Definition)
    {done : List Definition} (hall : r.toList = done ++ rest)
    (hcopy : Registry.Copied done copy) :
    ∃ copy', Registry.Copied r.toList copy' ∧
      Leads runList env (rest.flatMap definitionValues) (bare shadowing copy) [.entitySet]
        (bare shadowing copy') [.entitySet] := by
  -- on the definitions that are left, with a copy of those that are done
  induction rest generalizing done copy with
  | nil =>
    rw [List.append_nil] at hall
    rw [hall]
    exact ⟨copy, hcopy, leads_nil⟩
  | cons d rest ih =>
    obtain ⟨copy₁, outcome, hregister, hcopy₁⟩ := hcopy.register hr hdistinct hall
    obtain ⟨copy', hcopied, hleads⟩ := ih (by rw [hall, List.append_assoc]; rfl) hcopy₁
    have hd : ∀ p ∈ d.properties, p.Portable := hp d (by rw [hall]; simp)
    refine ⟨copy', hcopied, ?_⟩
    have hlist : Leads runList env [d.value] (bare shadowing copy) [.entitySet]
        (bare shadowing copy) [d.value, .entitySet] := leads_list _
    have hbuild : Leads runList env [.quoted (.word "!d")] (bare shadowing copy)
        [d.value, .entitySet] (bare shadowing copy)
        [.definition (d.unnamed.schema.define 0), .entitySet] :=
      leads_buildDefinition houter (Definition.toSchema_value hd)
    have hadd : Leads runList env [.quoted (.word "+")] (bare shadowing copy)
        [.definition (d.unnamed.schema.define 0), .entitySet] (bare shadowing copy₁)
        [.entitySet] := leads_add houter rfl (add_schema_bare hregister)
    exact (hlist.append (hbuild.append hadd)).append hleads

/-- A component is read back from the map that stands for it, over a copy of the
registry. -/
theorem Row.toComponent_componentValue {c : Component} {d : Definition} (h : s.Row c d)
    (hsound : s.registry.Sound) (hcopy : Registry.Copied s.registry.toList copy) :
    (bare shadowing copy).toComponent (s.componentValue c) = .ok c := by
  have hfind : (bare shadowing copy).definition? (.hash d.hash) = some d.unnamed := by
    have hOriginal : s.registry.find? (.hash d.hash) = some d :=
      hsound.byHash?_eq_some_iff.2 ⟨⟨c.defId, h.definition⟩, rfl⟩
    have hcopied : copy.find? (.hash d.hash) = some d.unnamed := by
      rw [hcopy.find?_eq hsound, hOriginal]
      rfl
    exact hcopied
  have hid : d.unnamed.id = c.defId := hsound.id_eq _ d h.definition
  have hread := recordComponent_record h.wellFormed h.portable h.assigned h.defId_le h.unreserved
    hfind (Component.defaults_eq_none_of_covered h.covered)
  rw [hid] at hread
  unfold componentValue
  rw [h.definition]
  exact hread

/-- A list of components is read as the batch of them. -/
theorem toItem_components (s : Store) (components : List Component) :
    s.toItem (.list (components.map .component)) = .ok (.many (components.map .component)) := by
  have hitems : s.toItems (components.map .component) = .ok (components.map .component) := by
    induction components with
    | nil => rfl
    | cons c rest ih =>
      rw [List.map_cons, toItems, ih]
      rfl
  rw [toItem, hitems]
  rfl

/-- The components of a store, evaluated over a copy of its definitions, lead to a
store with the same rows. -/
theorem leads_components (houter : env.outer = []) (hsound : s.registry.Sound)
    (hconsistent : s.Consistent) (hrows : ∀ c ∈ s.componentList, ∃ d, s.Row c d)
    (hcopy : Registry.Copied s.registry.toList copy) :
    ∃ t, Leads runList env s.componentValues (bare shadowing copy) [.entitySet] t [.entitySet] ∧
      t.components = s.components ∧ t.registry = copy ∧ t.Consistent ∧ t.PlainShapes := by
  cases hlist : s.componentList with
  | nil =>
    refine ⟨bare shadowing copy, ?_, ?_, rfl, consistent_bare shadowing copy,
      plainShapes_bare shadowing copy⟩
    · unfold componentValues
      rw [hlist]
      exact leads_nil
    · refine Table.ext_get? fun id => ?_
      have hentries : s.components.entries = [] := List.map_eq_nil_iff.1 hlist
      unfold Table.get?
      rw [hentries]
      rfl
  | cons c others =>
    have hvalues : s.componentValues = [.list (s.componentList.map s.componentValue)] ++
        ([.quoted (.word "!c")] ++ [.quoted (.word "+")]) := by
      unfold componentValues
      rw [hlist]
      rfl
    -- each map is read as its component
    have hread : (s.componentList.map s.componentValue).mapM (bare shadowing copy).toComponent
        = .ok s.componentList :=
      mapM_map_eq_ok _ _ _ fun c hc =>
        (hrows c hc).elim fun d h => h.toComponent_componentValue hsound hcopy
    have hplaced : ∀ id c, s.components.get? id = some c →
        c.id = id ∧ c.entity ≠ unassigned ∧ (copy.byId? c.defId).isSome := by
      intro id c hc
      obtain ⟨hkeyed, hassigned, hregistered, -⟩ := hconsistent.row id c hc
      subst hkeyed
      have hfind : copy.byId? c.defId = (s.registry.byId? c.defId).map Definition.unnamed :=
        hcopy.find?_eq hsound (.id c.defId)
      refine ⟨rfl, hassigned, ?_⟩
      rw [hfind, Option.isSome_map]
      exact hregistered
    obtain ⟨t, hadd, hcomponents, hregistry⟩ := add_components_bare hplaced
    refine ⟨t, ?_, hcomponents, hregistry, (consistent_bare shadowing copy).add hadd,
      (plainShapes_bare shadowing copy).add hadd⟩
    rw [hvalues]
    exact (leads_list _).append ((leads_buildComponents houter hread).append
      (leads_add houter (toItem_components _ _) hadd))

/-- **The values of an export**, evaluated over a store without anything, lead to
a store with the definitions and the rows. -/
theorem leads_exportValues (houter : env.outer = []) (hsound : s.registry.Sound)
    (hdistinct : shadowing = false → s.registry.DistinctUris) (hconsistent : s.Consistent)
    (hp : ∀ d ∈ s.registry.toList, ∀ p ∈ d.properties, p.Portable)
    (hrows : ∀ c ∈ s.componentList, ∃ d, s.Row c d) :
    ∃ t, Leads runList env s.exportValues (empty shadowing) [] t [] ∧
      t.components = s.components ∧ Registry.Copied s.registry.toList t.registry ∧
      t.Consistent ∧ t.PlainShapes := by
  obtain ⟨copy, hcopy, hdefinitions⟩ := leads_definitions houter hsound hdistinct hp
    s.registry.toList rfl Registry.copied_empty
  obtain ⟨t, hcomponents, hequal, rfl, hconsistent, hplain⟩ :=
    leads_components houter hsound hconsistent hrows hcopy
  refine ⟨t, ?_, hequal, hcopy, hconsistent, hplain⟩
  exact (leads_entitySet houter).append
    (hdefinitions.append (hcomponents.append (leads_drop houter)))

/-- The export reads of a store what a copy has of it. -/
theorem exportText_eq {t : Store} (hsound : s.registry.Sound)
    (hcopy : Registry.Copied s.registry.toList t.registry)
    (hcomponents : t.components = s.components) : t.exportText = s.exportText := by
  have hlist : t.componentList = s.componentList := by
    unfold componentList
    rw [hcomponents]
  have hline : t.componentLine = s.componentLine := by
    funext c
    have hfind : t.registry.byId? c.defId = (s.registry.byId? c.defId).map Definition.unnamed :=
      hcopy.find?_eq hsound (.id c.defId)
    unfold componentLine
    rw [hfind]
    cases s.registry.byId? c.defId <;> rfl
  have hdefinitions : t.registry.toList.flatMap definitionLine
      = s.registry.toList.flatMap definitionLine := by
    rw [hcopy.toList_eq, List.flatMap_map]
    rfl
  unfold exportText exportChars componentLines
  rw [hdefinitions, hlist, hline]

end Store

namespace Database

/-- **A program that writes values** is run as these are evaluated. -/
theorem runWith_of_writes {db : Database} {now : Instant} {program : String} {values : List Value}
    (hwrites : Writes now program.toList values) :
    runWith { values := [] } program { limits := db.settings.limits, now }
        { store := some db.store }
      = finished (runValues (runList db.settings.limits.maxDepth) values
          { limits := db.settings.limits, now } { store := some db.store }) := by
  obtain ⟨tokens, hspells, hcaptures⟩ := hwrites
  obtain ⟨lexemes, hscan, htokens⟩ := Lexer.scan_of_tokens (Lexer.tokens_of_spells hspells)
    program.toList.length 0 (Nat.le_refl _)
  have htokenize : Lexer.tokenize program = .ok lexemes := hscan
  have hsource : runWith { values := [] } program { limits := db.settings.limits, now }
      { store := some db.store } = runSource program { limits := db.settings.limits, now }
        { store := some db.store } := rfl
  -- the program is scanned to the tokens, and these run as the values
  rw [hsource]
  unfold runSource
  rw [htokenize]
  exact runTokens_of_captures hcaptures lexemes htokens _

/-- What a program of values leads to is what it does to a database. -/
theorem query_of_leads {db : Database} {now : Instant} {program : String} {values : List Value}
    {store : Store} (hwrites : Writes now program.toList values)
    (hleads : Leads (runList db.settings.limits.maxDepth) { limits := db.settings.limits, now }
      values db.store [] store []) :
    (db.query now program []).result = .ok [] ∧
      (db.query now program []).database = { db with store } := by
  obtain ⟨s, hrun, hstore, hitems, -⟩ := hleads { store := some db.store } ⟨rfl, rfl, rfl⟩
  have hprogram : runWith { values := [] } program { limits := db.settings.limits, now }
      { store := some db.store } = (.ok (), s) := by
    rw [runWith_of_writes hwrites, hrun]
    rfl
  unfold query queryUnder
  rw [hprogram]
  refine ⟨?_, ?_⟩
  · change Except.ok s.stack = .ok []
    rw [State.stack, hitems]
    rfl
  · change { db with store := s.store.getD db.store } = { db with store }
    rw [hstore]
    rfl

/-- A program that leaves nothing on the stack is loaded as it is run. -/
theorem load_of_query {db : Database} {now : Instant} {program : String}
    (h : (db.query now program []).result = .ok []) :
    (db.load now program).result = .ok [] ∧
      (db.load now program).database = (db.query now program []).database := by
  unfold load
  dsimp only
  rw [h]
  exact ⟨rfl, rfl⟩

/-- What it is for the export of a store to build the store again: on a new
database with the same settings it succeeds and leaves nothing on the stack, and
what it builds is the store but for the display names of the definitions, the
changes and the next free id. -/
structure Rebuilds (settings : Settings) (now : Instant) (s : Store) : Prop where
  stack : ((new settings).query now s.exportText []).result = .ok []
  loaded : (rebuilt ⟨settings, s⟩ now).result = .ok []
  definition : ∀ ident, (rebuilt ⟨settings, s⟩ now).database.store.definition? ident
    = (s.definition? ident).map Definition.unnamed
  entities : (rebuilt ⟨settings, s⟩ now).database.store.entities = s.entities
  components : (rebuilt ⟨settings, s⟩ now).database.store.components = s.components
  exportText : (rebuilt ⟨settings, s⟩ now).database.store.exportText = s.exportText

/-- **An export builds its store again.** Take any store that calls with
well-formed data lead to, under some settings, with portable numbers, fields that
are not named like reserved ones, and a value in every component for each default
of its definition. Its export builds the same definitions under the same ids, the
same entities with the same shapes and the same components, and the export of the
copy is the same text. -/
theorem export_rebuilds (settings : Settings) (now : Instant) (calls : List Store.Call)
    (hcalls : ∀ call ∈ calls, call.WellFormed)
    (hexportable : ((Store.empty settings.shadowing).afterAll calls).Exportable) :
    Rebuilds settings now ((Store.empty settings.shadowing).afterAll calls) := by
  have hwell := Store.kept_wellFormed.afterAll hcalls
    ⟨Store.consistent_empty settings.shadowing, Store.wellFormed_empty settings.shadowing⟩
  have hregular : ((Store.empty settings.shadowing).afterAll calls).Regular settings.shadowing :=
    (Store.kept_regular settings.shadowing).afterAll (fun _ _ => trivial)
      (Store.regular_empty settings.shadowing)
  generalize (Store.empty settings.shadowing).afterAll calls = s at *
  obtain ⟨hconsistent, hwf⟩ := hwell
  have hdefinitions : ∀ d ∈ s.registry.toList,
      d.schema.WellFormed ∧ ∀ p ∈ d.properties, p.Portable := by
    intro d hd
    obtain ⟨n, hn⟩ := Registry.mem_toList_iff.1 hd
    exact ⟨hwf.definition n d hn, hexportable.defaults n d hn⟩
  have hrows : ∀ c ∈ s.componentList, ∃ d, s.Row c d := fun c hc =>
    hexportable.row hconsistent hregular.sound hwf hc
  -- the text writes the values, and the values lead to a copy
  have hwrites : Writes now s.exportText.toList s.exportValues := by
    rw [Store.exportText, String.toList_ofList]
    exact Store.exportChars_write hdefinitions hrows
  obtain ⟨t, hleads, hcomponents, hcopy, htconsistent, htplain⟩ :=
    @Store.leads_exportValues s settings.shadowing (runList settings.limits.maxDepth)
      { limits := settings.limits, now } rfl hregular.sound hregular.distinct hconsistent
      (fun d hd => (hdefinitions d hd).2) hrows
  obtain ⟨hresult, hdatabase⟩ := @query_of_leads (new settings) now _ _ t hwrites hleads
  obtain ⟨hloaded, hloadedDatabase⟩ := load_of_query hresult
  have hstore : (rebuilt ⟨settings, s⟩ now).database.store = t := by
    have hrebuilt : (rebuilt ⟨settings, s⟩ now).database = { new settings with store := t } :=
      hloadedDatabase.trans hdatabase
    rw [hrebuilt]
  refine ⟨hresult, hloaded, ?_, ?_, ?_, ?_⟩ <;> rw [hstore]
  · exact hcopy.find?_eq hregular.sound
  · exact Store.entities_eq_of_components_eq hconsistent htconsistent hregular.plain htplain
      hcomponents
  · exact hcomponents
  · exact Store.exportText_eq hregular.sound hcopy hcomponents

/-- A named definition with a default, and a note with a text and numbers. -/
theorem export_rebuilds_note :
    let size : Property := { name := "size", type := .number, default := some (.float 1.5) }
    let schema : Schema := { uri := "/note", name := some "Note", properties := [size] }
    let fields := Table.ofList [("size", .float 2.5), ("lines", .array [.string "a\n", .int (-3)])]
    let note : Component := { entity := 7, defId := 1, attributes := fields }
    let calls : List Store.Call := [.register schema, .add (.component note) {}]
    let settings : Settings := {}
    let s := (Store.empty settings.shadowing).afterAll calls
    s.componentList = [note] ∧ Rebuilds settings ⟨2024, 1, 1, 0, 0, 0, 0⟩ s := by
  intro size schema fields note calls settings s
  have hfloat : (Json.float 1.5).Portable ∧ (Json.float 2.5).Portable := by
    constructor <;> exact ⟨by decide +kernel, by decide +kernel⟩
  have hdefinition : ∀ (n : Nat) d, s.definition? (.id n) = some d → d = schema.define 1 := by
    intro n d hd
    exact List.mem_singleton.1 (Registry.mem_toList_iff.2 ⟨n, hd⟩)
  have hcomponent : ∀ id c, s.component? id = some c → c = note := by
    intro id c hc
    have hrow : (id, c) ∈ [((⟨7, 1⟩ : ComponentId), note)] := Table.mem_entries_iff.2 hc
    exact (Prod.mk.inj (List.mem_singleton.1 hrow)).2
  have hcalls : ∀ call ∈ calls, call.WellFormed := by
    intro call hcall
    rcases List.mem_cons.1 hcall with rfl | hcall
    · intro p hp value hvalue
      obtain rfl := List.mem_singleton.1 hp
      obtain rfl := Option.some.inj hvalue
      exact hfloat.1.1
    · obtain rfl := List.mem_singleton.1 hcall
      refine ⟨fun c hc => ?_, fun e he => absurd he List.not_mem_nil,
        fun s hs => absurd hs List.not_mem_nil⟩
      obtain rfl := List.mem_singleton.1 hc
      exact ⟨by decide, ⟨trivial, trivial, trivial⟩, hfloat.2.1, trivial⟩
  have hexportable : s.Exportable := by
    refine ⟨fun n d hd p hp value hvalue => ?_, fun id c hc => ?_, fun id c hc => ?_,
      fun id c hc d hd p hp _ => ?_⟩
    · obtain rfl := hdefinition n d hd
      obtain rfl := List.mem_singleton.1 hp
      obtain rfl := Option.some.inj hvalue
      exact hfloat.1
    · obtain rfl := hcomponent id c hc
      have hint : (Json.int (-3)).Portable := show Binary64.fitsInt64 (-3) = true by decide
      exact ⟨⟨trivial, hint, trivial⟩, hfloat.2, trivial⟩
    · obtain rfl := hcomponent id c hc
      intro name hname
      simp only [reservedFields, List.mem_cons, List.not_mem_nil, or_false] at hname
      rcases hname with rfl | rfl | rfl | rfl <;>
        exact Option.isNone_iff_eq_none.1 (by decide +kernel)
    · obtain rfl := hcomponent id c hc
      obtain rfl := hdefinition _ d hd
      obtain rfl := List.mem_singleton.1 hp
      decide +kernel
  exact ⟨rfl, export_rebuilds settings ⟨2024, 1, 1, 0, 0, 0, 0⟩ calls hcalls hexportable⟩

end Database

end EntityBase
