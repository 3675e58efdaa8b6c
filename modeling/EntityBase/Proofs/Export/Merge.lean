import EntityBase.Proofs.Export.RoundTrip

/-!
# Merging stores — an export that is loaded into a store that holds something

A program that an export writes can be loaded into any store where uris may be
taken over. Its definitions are merged with those that are there, by content; its
records then find their definitions by hash, under whatever ids these have, and
are added over the rows that are there.

`import_merges` says what comes of it, row by row. Nothing is lost of the store
that is loaded into, except for rows that the program brings other fields for.
-/

namespace EntityBase

open Machine

namespace Store

variable {a b t : Store} {runList : List Value → Run Flow} {env : Env} {c : Component}
  {d e : Definition} {done rest : List Definition}

/-! ## Definitions -/

/-- A store into which some definitions were loaded, starting from a base. -/
structure Loaded (base : Store) (done : List Definition) (t : Store) : Prop where
  registry : Registry.Merged base.registry done t.registry
  components : t.components = base.components
  consistent : t.Consistent
  regular : t.Regular true

/-- **The definitions of a sound registry**, evaluated one after another, are loaded
into a store that has ids for those that it lacks. -/
theorem leads_merged (houter : env.outer = [])
    (hd : ∀ d ∈ rest, d.hash = d.schema.contentHash ∧ ∀ p ∈ d.properties, p.Portable)
    (ht : Loaded b done t)
    (hroom : t.registry.size + (t.registry.missing rest).length ≤ maxDefId) :
    ∃ t', Loaded b (done ++ rest) t' ∧
      Leads runList env (rest.flatMap definitionValues) t [.entitySet] t' [.entitySet] := by
  -- on the definitions that are left
  induction rest generalizing done t with
  | nil =>
    rw [List.append_nil]
    exact ⟨t, ht, leads_nil⟩
  | cons d rest ih =>
    obtain ⟨hhash, hp⟩ := hd d (List.mem_cons_self ..)
    obtain ⟨r, outcome, hregister, hmerged, hroom'⟩ := ht.registry.register hhash hroom
    have hregister' : t.registry.register d.unnamed.schema t.shadowing = .ok (r, outcome) := by
      rw [ht.regular.policy]
      exact hregister
    obtain ⟨t₁, hadd, rfl, hcomponents⟩ := add_schema ht.consistent.capped hregister'
    have ht₁ : Loaded b (done ++ [d]) t₁ :=
      ⟨hmerged, hcomponents.trans ht.components, ht.consistent.add hadd, ht.regular.add hadd⟩
    obtain ⟨t', hloaded, hleads⟩ := ih (fun e he => hd e (List.mem_cons_of_mem _ he)) ht₁ hroom'
    rw [List.append_assoc] at hloaded
    refine ⟨t', hloaded, ?_⟩
    have hlist : Leads runList env [d.value] t [.entitySet] t [d.value, .entitySet] := leads_list _
    have hbuild : Leads runList env [.quoted (.word "!d")] t [d.value, .entitySet] t
        [.definition (d.unnamed.schema.define 0), .entitySet] :=
      leads_buildDefinition houter (Definition.toSchema_value hp)
    have haddStep : Leads runList env [.quoted (.word "+")] t
        [.definition (d.unnamed.schema.define 0), .entitySet] t₁ [.entitySet] :=
      leads_add houter rfl hadd
    exact (hlist.append (hbuild.append haddStep)).append hleads

/-! ## Components -/

/-- The component under the id that the definition of the same hash has in another
store. -/
def moved (a t : Store) (c : Component) : Component :=
  match (a.registry.byId? c.defId).bind fun d => t.registry.byHash? d.hash with
  | some e => { c with defId := e.id }
  | none => c

theorem moved_eq (hd : a.registry.byId? c.defId = some d)
    (he : t.registry.byHash? d.hash = some e) : a.moved t c = { c with defId := e.id } := by
  rw [moved, hd, Option.bind_some, he]

/-- Two components of a store that are moved to one row are one component. -/
theorem moved_injective {c' : Component} {d' e' : Definition} (hsound : t.registry.Sound)
    (ha : a.registry.Sound)
    (hd : a.registry.byId? c.defId = some d) (hd' : a.registry.byId? c'.defId = some d')
    (he : t.registry.byHash? d.hash = some e) (he' : t.registry.byHash? d'.hash = some e')
    (hid : (a.moved t c).id = (a.moved t c').id) : c.id = c'.id := by
  rw [moved_eq hd he, moved_eq hd' he'] at hid
  obtain ⟨hentity, hdef⟩ := ComponentId.mk.inj hid
  obtain ⟨⟨n, hn⟩, hhash⟩ := hsound.byHash?_eq_some_iff.1 he
  obtain ⟨⟨n', hn'⟩, hhash'⟩ := hsound.byHash?_eq_some_iff.1 he'
  -- the definition of the row has one hash, and the hash one definition in the other store
  have hnn : n = n' := by
    rw [← hsound.id_eq n e hn, ← hsound.id_eq n' e' hn']
    exact hdef
  subst hnn
  obtain rfl := Option.some.inj (hn.symm.trans hn')
  have hsame := ha.byHash?_eq_some_iff.2 ⟨⟨_, hd⟩, hhash.symm⟩
  rw [ha.byHash?_eq_some_iff.2 ⟨⟨_, hd'⟩, hhash'.symm⟩] at hsame
  obtain rfl := Option.some.inj hsame
  have hdefId : c.defId = c'.defId := by
    rw [← ha.id_eq _ _ hd, ← ha.id_eq _ _ hd']
  unfold Component.id
  rw [hentity, hdefId]

/-- Whether a component has a value for each default of the definition that a store
has of a hash. -/
def CoversHash (s : Store) (c : Component) (hash : String) : Prop :=
  ∀ e, s.definition? (.hash hash) = some e →
    ∀ p ∈ e.properties, p.default.isSome → (c.attributes.get? p.name).isSome

/-- What a loaded store has of a hash is there from before or comes from the export;
a row that covers both covers it. -/
theorem Row.covers_loaded (h : a.Row c d) (ha : a.registry.Sound) (hb : b.registry.Sound)
    (ht : Loaded b a.registry.toList t) (hcovers : b.CoversHash c d.hash) :
    t.CoversHash c d.hash := by
  intro e he
  obtain ⟨⟨n, hn⟩, hhash⟩ := ht.registry.sound.byHash?_eq_some_iff.1 he
  rcases ht.registry.origin n e hn with hbase | ⟨d', hd', hhash', hproperties⟩
  · exact hcovers e (hb.byHash?_eq_some_iff.2 ⟨⟨n, hbase⟩, hhash⟩)
  · -- the exported definition of that hash is the one of the row
    have hfound := ha.byHash?_eq_some_iff.2 ⟨Registry.mem_toList_iff.1 hd', hhash'.symm.trans hhash⟩
    rw [ha.byHash?_eq_some_iff.2 ⟨⟨_, h.definition⟩, rfl⟩] at hfound
    obtain rfl := Option.some.inj hfound
    rw [hproperties]
    exact h.covered

/-- A component is read, over a loaded store, as the one it is moved to. -/
theorem Row.toComponent_moved (h : a.Row c d) (ht : t.CoversHash c d.hash)
    (he : t.registry.byHash? d.hash = some e) :
    t.toComponent (a.componentValue c) = .ok (a.moved t c) := by
  rw [moved_eq h.definition he, componentValue, h.definition]
  exact recordComponent_record h.wellFormed h.portable h.assigned h.defId_le h.unreserved he
    (Component.defaults_eq_none_of_covered (ht e he))

/-- **The components of an export** go to the rows that they are moved to. -/
theorem leads_moved (houter : env.outer = []) (ht : t.Consistent) (hregular : t.Regular true)
    (hrows : ∀ c ∈ a.componentList, ∃ d e, a.Row c d ∧ t.CoversHash c d.hash ∧
      t.registry.byHash? d.hash = some e) :
    ∃ t', Leads runList env a.componentValues t [.entitySet] t' [.entitySet] ∧
      t'.registry = t.registry ∧ t'.Consistent ∧ t'.PlainShapes ∧
        Overlaid t (a.componentList.map (a.moved t)) t' := by
  cases hlist : a.componentList with
  | nil =>
    refine ⟨t, ?_, rfl, ht, hregular.plain, overlaid_nil t⟩
    unfold componentValues
    rw [hlist]
    exact leads_nil
  | cons first others =>
    have hvalues : a.componentValues = [.list (a.componentList.map a.componentValue)] ++
        ([.quoted (.word "!c")] ++ [.quoted (.word "+")]) := by
      unfold componentValues
      rw [hlist]
      rfl
    have hread : (a.componentList.map a.componentValue).mapM t.toComponent
        = .ok (a.componentList.map (a.moved t)) :=
      mapM_map_eq_ok_map _ _ _ _ fun c hc => by
        obtain ⟨d, e, hrow, hcovers, he⟩ := hrows c hc
        exact hrow.toComponent_moved hcovers he
    have hplaced : ∀ c ∈ a.componentList.map (a.moved t),
        c.entity ≠ unassigned ∧ (t.registry.byId? c.defId).isSome := by
      intro c' hc'
      obtain ⟨c, hc, rfl⟩ := List.mem_map.1 hc'
      obtain ⟨d, e, hrow, -, he⟩ := hrows c hc
      obtain ⟨⟨n, hn⟩, -⟩ := hregular.sound.byHash?_eq_some_iff.1 he
      rw [moved_eq hrow.definition he, hregular.sound.id_eq n e hn]
      exact ⟨hrow.assigned, by rw [hn]; rfl⟩
    obtain ⟨t', hadd, hregistry, hrow⟩ := add_components ht.capped hplaced
    refine ⟨t', ?_, hregistry, ht.add hadd, hregular.plain.add hadd, by rwa [hlist] at hrow⟩
    rw [hvalues]
    exact (leads_list _).append ((leads_buildComponents houter hread).append
      (leads_add houter (toItem_components _ _) hadd))

/-! ## Rows -/

variable {t' : Store}

/-- The row that a component goes to, after it was added. -/
theorem sameFields_rowAfter {old? : Option Component} {c : Component} (hc : c.WellFormed)
    (hold : ∀ old, old? = some old → old.entity = c.entity) :
    (rowAfter old? c).entity = c.entity ∧ (rowAfter old? c).defId = c.defId ∧
      Json.sameFields (rowAfter old? c).attributes.entries c.attributes.entries = true := by
  have hself : Json.sameFields c.attributes.entries c.attributes.entries = true :=
    Json.sameFields_self _ hc.fields
  cases old? with
  | none => exact ⟨rfl, rfl, hself⟩
  | some old =>
    unfold rowAfter
    dsimp only
    split
    · rename_i hsame
      obtain ⟨hdef, hfields⟩ := Bool.and_eq_true_iff.1 hsame
      exact ⟨hold old rfl, by simpa using hdef, hfields⟩
    · exact ⟨rfl, rfl, hself⟩

/-- What was loaded has a definition for each row of the export. -/
theorem Loaded.exists_of_row (ht : Loaded b a.registry.toList t) {c : Component} {d : Definition}
    (h : a.Row c d) : ∃ e, t.registry.byHash? d.hash = some e :=
  Option.isSome_iff_exists.1
    (ht.registry.known d (Registry.mem_toList_iff.2 ⟨_, h.definition⟩))

/-- Loading the definitions of a store into the store itself changes none. -/
theorem Loaded.registry_self (ht : Loaded a a.registry.toList t) (hsound : a.registry.Sound) :
    t.registry = a.registry := by
  refine ht.registry.unchanged fun d hd => ?_
  rw [hsound.byHash?_eq_some_iff.2 ⟨Registry.mem_toList_iff.1 hd, rfl⟩]
  rfl

/-- **Components that are moved to their own rows** change none of them. -/
theorem components_of_moved_self (ha : a.Consistent) (hsound : a.registry.Sound)
    (ht : Loaded a a.registry.toList t) (hrows : ∀ c ∈ a.componentList, ∃ d, a.Row c d)
    (hmoved : Overlaid t (a.componentList.map (a.moved t)) t') :
    t'.components = a.components := by
  have hmap : a.componentList.map (a.moved t) = a.componentList := by
    refine (List.map_congr_left fun c hc => ?_).trans (List.map_id _)
    obtain ⟨d, hrow⟩ := hrows c hc
    have he : t.registry.byHash? d.hash = some d := by
      rw [ht.registry_self hsound]
      exact hsound.byHash?_eq_some_iff.2 ⟨⟨_, hrow.definition⟩, rfl⟩
    rw [moved_eq hrow.definition he, hsound.id_eq _ d hrow.definition]
    rfl
  rw [hmap] at hmoved
  refine Table.ext_get? fun id => ?_
  change t'.component? id = _
  have hlast : lastAt id a.componentList = a.components.get? id :=
    lastAt_values id fun id c hc => (ha.row id c hc).keyed
  have hbefore : t.component? id = a.components.get? id := by
    rw [component?, ht.components]
  cases hget : a.components.get? id with
  | none => rw [hmoved.of_none (hlast.trans hget), hbefore, hget]
  | some c =>
    rw [hmoved.of_some (hlast.trans hget), hbefore, hget]
    -- a well-formed component has the content of itself
    have hmem : c ∈ a.componentList := by
      refine ha.mem_componentList_iff.2 ?_
      rw [(ha.row id c hget).keyed]
      exact hget
    obtain ⟨d, hstored⟩ := hrows c hmem
    simp only [rowAfter, Component.sameContent_self hstored.wellFormed, if_true]

section Moved

variable (ha : a.Consistent) (hsound : a.registry.Sound) (ht : Loaded b a.registry.toList t)
  (hrows : ∀ c ∈ a.componentList, ∃ d, a.Row c d)

include ha hsound ht hrows

/-- The last component for the row that a component is moved to is that component. -/
theorem lastAt_moved {c : Component} (hc : c ∈ a.componentList) :
    lastAt (a.moved t c).id (a.componentList.map (a.moved t)) = some (a.moved t c) := by
  refine lastAt_of_unique (List.mem_map_of_mem hc) fun c' hc' hid => ?_
  obtain ⟨c', hmem, rfl⟩ := List.mem_map.1 hc'
  obtain ⟨d, hrow⟩ := hrows c hc
  obtain ⟨d', hrow'⟩ := hrows c' hmem
  obtain ⟨e, he⟩ := ht.exists_of_row hrow
  obtain ⟨e', he'⟩ := ht.exists_of_row hrow'
  have hsame := moved_injective ht.registry.sound hsound hrow'.definition hrow.definition he' he hid
  -- a row of the store is settled by its key
  have hstored := ha.mem_componentList_iff.1 hmem
  rw [hsame, ha.mem_componentList_iff.1 hc] at hstored
  rw [Option.some.inj hstored]

/-- The row that a component is moved to holds it. -/
theorem row_of_moved {c : Component} {d e : Definition} (hc : c ∈ a.componentList)
    (hd : a.registry.byId? c.defId = some d) (he : t.registry.byHash? d.hash = some e)
    (hmoved : Overlaid t (a.componentList.map (a.moved t)) t') :
    t'.component? ⟨c.entity, e.id⟩
      = some (rowAfter (t.component? ⟨c.entity, e.id⟩) { c with defId := e.id }) := by
  have hlast := lastAt_moved ha hsound ht hrows hc
  rw [moved_eq hd he] at hlast
  exact hmoved.of_some hlast

end Moved

/-! ## Mergers -/

/-- What it is for the definitions and the components of a store `a` to be merged into
a store `b`, with the outcome `t`. The row of a component of `a` is that of its entity
under the id of its hash. -/
structure Merges (a b t : Store) : Prop where
  kept : ∀ n d, b.definition? (.id n) = some d → t.definition? (.id n) = some d
  known : ∀ n d, a.definition? (.id n) = some d →
    ∃ e, t.definition? (.hash d.hash) = some e ∧ e.hash = d.hash
  row : ∀ id c d e, a.component? id = some c → a.definition? (.id c.defId) = some d →
    t.definition? (.hash d.hash) = some e →
    ∃ c', t.component? ⟨c.entity, e.id⟩ = some c' ∧ c'.entity = c.entity ∧ c'.defId = e.id ∧
      Json.sameFields c'.attributes.entries c.attributes.entries = true
  other : ∀ id, (∀ i c d e, a.component? i = some c → a.definition? (.id c.defId) = some d →
      t.definition? (.hash d.hash) = some e → id ≠ ⟨c.entity, e.id⟩) →
    t.component? id = b.component? id
  self : a = b →
    t.registry = b.registry ∧ t.entities = b.entities ∧ t.components = b.components

/-- **Definitions loaded and components moved** make a merger. -/
theorem merges_of_moved (ha : a.Consistent) (hsound : a.registry.Sound)
    (ht : Loaded b a.registry.toList t) (hrows : ∀ c ∈ a.componentList, ∃ d, a.Row c d)
    (hb : b.Consistent) (hbplain : b.PlainShapes) (hregistry : t'.registry = t.registry)
    (ht' : t'.Consistent) (hplain : t'.PlainShapes)
    (hmoved : Overlaid t (a.componentList.map (a.moved t)) t') : Merges a b t' := by
  have hfind : ∀ hash, t'.definition? (.hash hash) = t.registry.byHash? hash := by
    intro hash
    change t'.registry.byHash? hash = _
    rw [hregistry]
  have hlisted : ∀ {id c}, a.component? id = some c → c ∈ a.componentList ∧ c.id = id := by
    intro id c hc
    have hkeyed := (ha.row id c hc).keyed
    exact ⟨ha.mem_componentList_iff.2 (hkeyed ▸ hc), hkeyed⟩
  refine ⟨?_, ?_, ?_, ?_, ?_⟩
  · intro n d hd
    change t'.registry.byId? n = some d
    rw [hregistry]
    exact ht.registry.kept n d hd
  · intro n d hd
    obtain ⟨e, he⟩ := Option.isSome_iff_exists.1
      (ht.registry.known d (Registry.mem_toList_iff.2 ⟨n, hd⟩))
    exact ⟨e, (hfind _).trans he, (ht.registry.sound.byHash?_eq_some_iff.1 he).2⟩
  · intro id c d e hc hd he
    rw [hfind] at he
    obtain ⟨hmem, -⟩ := hlisted hc
    obtain ⟨d', hrow⟩ := hrows c hmem
    have hwf : ({ c with defId := e.id } : Component).WellFormed :=
      ⟨hrow.wellFormed.owner, hrow.wellFormed.fields⟩
    refine ⟨_, row_of_moved ha hsound ht hrows hmem hd he hmoved, ?_⟩
    -- a row that was there stood at its own key
    exact sameFields_rowAfter hwf fun old hold =>
      congrArg ComponentId.entity (ht.consistent.row _ old hold).keyed
  · intro id hother
    have hnone : lastAt id (a.componentList.map (a.moved t)) = none := by
      refine lastAt_eq_none_iff.2 fun c' hc' hid => ?_
      obtain ⟨c, hc, rfl⟩ := List.mem_map.1 hc'
      obtain ⟨d, hrow⟩ := hrows c hc
      obtain ⟨e, he⟩ := ht.exists_of_row hrow
      rw [moved_eq hrow.definition he] at hid
      exact hother c.id c d e (ha.mem_componentList_iff.1 hc) hrow.definition ((hfind _).trans he)
        hid.symm
    rw [hmoved.of_none hnone]
    change t.components.get? id = b.components.get? id
    rw [ht.components]
  · rintro rfl
    have hcomponents := components_of_moved_self ha hsound ht hrows hmoved
    exact ⟨hregistry.trans (ht.registry_self hsound),
      entities_eq_of_components_eq hb ht' hbplain hplain hcomponents, hcomponents⟩

/-- **The values of an export**, evaluated over a store that has ids for the definitions
that it lacks, lead to a merger. -/
theorem leads_merge (houter : env.outer = []) (ha : a.Consistent) (hsound : a.registry.Sound)
    (hp : ∀ d ∈ a.registry.toList, ∀ p ∈ d.properties, p.Portable)
    (hrows : ∀ c ∈ a.componentList, ∃ d, a.Row c d ∧ b.CoversHash c d.hash) (hb : b.Consistent)
    (hregular : b.Regular true)
    (hroom : b.registry.size + (b.registry.missing a.registry.toList).length ≤ maxDefId) :
    ∃ t, Leads runList env a.exportValues b [] t [] ∧ Merges a b t := by
  have hstored : ∀ c ∈ a.componentList, ∃ d, a.Row c d :=
    fun c hc => (hrows c hc).imp fun _ h => h.1
  have hcontents : ∀ d ∈ a.registry.toList, d.hash = d.schema.contentHash ∧
      ∀ p ∈ d.properties, p.Portable := by
    intro d hd
    obtain ⟨n, hn⟩ := Registry.mem_toList_iff.1 hd
    exact ⟨hsound.hash_eq n d hn, hp d hd⟩
  -- the definitions first, and over them the components
  obtain ⟨t, ht, hdefinitions⟩ := leads_merged houter hcontents
    ⟨Registry.merged_nil hregular.sound, rfl, hb, hregular⟩ hroom
  obtain ⟨t', hcomponents, hregistry, ht', hplain, hmoved⟩ :=
    leads_moved houter ht.consistent ht.regular fun c hc => by
      obtain ⟨d, hrow, hcovers⟩ := hrows c hc
      obtain ⟨e, he⟩ := ht.exists_of_row hrow
      exact ⟨d, e, hrow, hrow.covers_loaded hsound hregular.sound ht hcovers, he⟩
  refine ⟨t', ?_, merges_of_moved ha hsound ht hstored hb hregular.plain hregistry ht' hplain hmoved⟩
  exact (leads_entitySet houter).append
    (hdefinitions.append (hcomponents.append (leads_drop houter)))

end Store

namespace Database

/-- What it is for the export of a store `a` to be loaded into a database that holds `b`:
it succeeds and leaves nothing on the stack, and the outcome is the merger. -/
structure Imports (settings : Settings) (now : Instant) (a b : Store) : Prop where
  result : ((⟨settings, b⟩ : Database).load now a.exportText).result = .ok []
  merges : Store.Merges a b ((⟨settings, b⟩ : Database).load now a.exportText).database.store

/-- **An export is merged into a store that holds something.** Take any store that
calls with well-formed data lead to, with portable numbers, no field named like a
reserved one, and a value in every component for each default of its definition; and
any store of a database that lets uris be taken over, with ids left for the definitions
that it lacks, of whose definitions by the same hash the components have a value for
each default as well. Loading the export of the first into the second succeeds. The
definitions that were there keep their ids and contents, each exported definition is
found by its hash, each exported component is found at its entity under the id of that,
with the fields it had, and every other row is as it was. A store that its own export is
loaded into keeps its definitions and its tables. -/
theorem import_merges (settings : Settings) (now : Instant) (shadowing : Bool)
    (callsA callsB : List Store.Call) (hcallsA : ∀ call ∈ callsA, call.WellFormed)
    (hshadowing : settings.shadowing = true)
    (hexportable : ((Store.empty shadowing).afterAll callsA).Exportable)
    (hcovers : ∀ id c d, ((Store.empty shadowing).afterAll callsA).component? id = some c →
      ((Store.empty shadowing).afterAll callsA).definition? (.id c.defId) = some d →
      ((Store.empty settings.shadowing).afterAll callsB).CoversHash c d.hash)
    (hroom : ((Store.empty settings.shadowing).afterAll callsB).registry.size +
      (((Store.empty shadowing).afterAll callsA).registry.toList.filter fun d =>
        (((Store.empty settings.shadowing).afterAll callsB).definition? (.hash d.hash)).isNone).length
        ≤ maxDefId) :
    Imports settings now ((Store.empty shadowing).afterAll callsA)
      ((Store.empty settings.shadowing).afterAll callsB) := by
  obtain ⟨ha, haw⟩ := Store.kept_wellFormed.afterAll hcallsA
    ⟨Store.consistent_empty shadowing, Store.wellFormed_empty shadowing⟩
  have haregular : ((Store.empty shadowing).afterAll callsA).Regular shadowing :=
    (Store.kept_regular shadowing).afterAll (fun _ _ => trivial) (Store.regular_empty shadowing)
  have hb : ((Store.empty settings.shadowing).afterAll callsB).Consistent :=
    Store.kept_consistent.afterAll (fun _ _ => trivial) (Store.consistent_empty _)
  have hbregular : ((Store.empty settings.shadowing).afterAll callsB).Regular settings.shadowing :=
    (Store.kept_regular _).afterAll (fun _ _ => trivial) (Store.regular_empty _)
  generalize (Store.empty shadowing).afterAll callsA = a at *
  generalize (Store.empty settings.shadowing).afterAll callsB = b at *
  rw [hshadowing] at hbregular
  have hrows : ∀ c ∈ a.componentList, ∃ d, a.Row c d ∧ b.CoversHash c d.hash := by
    intro c hc
    obtain ⟨d, hrow⟩ := hexportable.row ha haregular.sound haw hc
    exact ⟨d, hrow, hcovers c.id c d (ha.mem_componentList_iff.1 hc) hrow.definition⟩
  have hp : ∀ d ∈ a.registry.toList, ∀ p ∈ d.properties, p.Portable := by
    intro d hd
    obtain ⟨n, hn⟩ := Registry.mem_toList_iff.1 hd
    exact hexportable.defaults n d hn
  obtain ⟨t, hleads, hmerges⟩ : ∃ t, Leads (runList settings.limits.maxDepth)
      { limits := settings.limits, now } a.exportValues b [] t [] ∧ Store.Merges a b t :=
    Store.leads_merge rfl ha haregular.sound hp hrows hb hbregular hroom
  have hwrites : Writes now a.exportText.toList a.exportValues :=
    hexportable.exportText_writes ha haregular.sound haw
  obtain ⟨hresult, hdatabase⟩ :=
    @query_of_leads ⟨settings, b⟩ now a.exportText a.exportValues t hwrites hleads
  obtain ⟨hloaded, hloadedDatabase⟩ := load_of_query hresult
  refine ⟨hloaded, ?_⟩
  rw [hloadedDatabase, hdatabase]
  exact hmerges

/-- A note of an entity is loaded into a store in which the entity has a tag, and where
the id of the note is taken by the definition of the tag. -/
theorem import_merges_note :
    let note : Component :=
      { entity := 7, defId := 1, attributes := Table.ofList [("text", .string "a")] }
    let tag : Component := { entity := 7, defId := 1 }
    let a := (Store.empty true).afterAll [.register { uri := "/note" }, .add (.component note) {}]
    let settings : Settings := {}
    let b := (Store.empty settings.shadowing).afterAll
      [.register { uri := "/tag" }, .add (.component tag) {}]
    let now : Instant := ⟨2024, 1, 1, 0, 0, 0, 0⟩
    let merged := ((⟨settings, b⟩ : Database).load now a.exportText).database.store
    Imports settings now a b ∧
      merged.componentList.map (fun c => (Value.component c).display)
        = ["(c 7:1 \x7b\x7d)", "(c 7:2 \x7b\"text\":\"a\"\x7d)"] := by
  intro note tag a settings b now merged
  let definition : Definition := Schema.define { uri := "/note" } 1
  have hdefinition : ∀ (n : Nat) d, a.definition? (.id n) = some d → d = definition := by
    intro n d hd
    exact List.mem_singleton.1 (Registry.mem_toList_iff.2 ⟨n, hd⟩)
  have hcomponent : ∀ id c, a.component? id = some c → c = note := by
    intro id c hc
    have hrow : (id, c) ∈ [((⟨7, 1⟩ : ComponentId), note)] := Table.mem_entries_iff.2 hc
    exact (Prod.mk.inj (List.mem_singleton.1 hrow)).2
  have hcalls : ∀ call ∈ ([.register { uri := "/note" }, .add (.component note) {}] : List Store.Call),
      call.WellFormed := by
    intro call hcall
    rcases List.mem_cons.1 hcall with rfl | hcall
    · intro p hp
      cases hp
    · obtain rfl := List.mem_singleton.1 hcall
      refine ⟨fun c hc => ?_, fun e he => absurd he List.not_mem_nil,
        fun s hs => absurd hs List.not_mem_nil⟩
      obtain rfl := List.mem_singleton.1 hc
      exact ⟨by decide, trivial, trivial⟩
  have hexportable : a.Exportable := by
    refine ⟨fun n d hd p hp => ?_, fun id c hc => ?_, fun id c hc => ?_, fun id c hc d hd p hp => ?_⟩
    · obtain rfl := hdefinition n d hd
      cases hp
    · obtain rfl := hcomponent id c hc
      exact ⟨trivial, trivial⟩
    · obtain rfl := hcomponent id c hc
      intro name hname
      simp only [reservedFields, List.mem_cons, List.not_mem_nil, or_false] at hname
      rcases hname with rfl | rfl | rfl | rfl <;>
        exact Option.isNone_iff_eq_none.1 (by decide +kernel)
    · obtain rfl := hdefinition _ d hd
      cases hp
  -- the store has no definition of the hash of the note
  have hunknown : (b.definition? (.hash definition.hash)).isNone = true := by decide +kernel
  have hcovers : ∀ id c d, a.component? id = some c → a.definition? (.id c.defId) = some d →
      b.CoversHash c d.hash := by
    intro id c d _ hd e he
    obtain rfl := hdefinition _ d hd
    rw [he] at hunknown
    cases hunknown
  have hroom : b.registry.size + (a.registry.toList.filter fun d =>
      (b.definition? (.hash d.hash)).isNone).length ≤ maxDefId := by
    have hmissing := List.length_filter_le
      (fun d : Definition => (b.definition? (.hash d.hash)).isNone) a.registry.toList
    exact Nat.le_trans (Nat.add_le_add_left hmissing _) (by decide +kernel)
  exact ⟨import_merges settings now true _ _ hcalls rfl hexportable hcovers hroom,
    by decide +kernel⟩

end Database

end EntityBase
