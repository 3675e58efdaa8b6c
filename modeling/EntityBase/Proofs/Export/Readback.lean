import EntityBase.Proofs.Export.RoundTrip
import EntityBase.Proofs.Machine.Sequence

/-!
# Reading back — when a record is read as its component

The export writes a component as the literal of its record, and `!c` builds a
component of what the literal is captured as. The two undo each other for a
component with portable numbers that `Returns`: its fields named like reserved
ones, if it has any, say what the marks would have said, and where it has no
field, its definition has no default.

These conditions are exact (`record_reads_back_iff`), and a store accepts
components that miss them. Such a component comes back with a field that it
did not have, without one that it had, under another owner, or not at all
(`record_reads_back_fails`).
-/

namespace EntityBase

open Machine

namespace Store

variable {s : Store} {d e : Definition} {mark : Json}

theorem markedBy?_hash (hsound : s.registry.Sound) {n : DefId}
    (hd : s.registry.byId? n = some d) : s.markedBy? (.string d.hash) = some d :=
  hsound.byHash?_eq_some_iff.2 ⟨⟨n, hd⟩, rfl⟩

/-- A mark that finds a definition is its hash. -/
theorem eq_hash_of_markedBy? (hsound : s.registry.Sound) (h : s.markedBy? mark = some e) :
    (∃ n, s.registry.byId? n = some e) ∧ mark = .string e.hash := by
  obtain ⟨name, hname, hfind⟩ := Option.bind_eq_some_iff.1 h
  obtain ⟨hregistered, rfl⟩ := hsound.byHash?_eq_some_iff.1 hfind
  exact ⟨hregistered, Value.eq_string_of_name?_ofJson hname⟩

end Store

/-- What a component by the definition `d` needs in order to come back from its
record in the store that holds it. -/
structure Component.Returns (c : Component) (d : Definition) : Prop where
  hash : ∀ v, c.attributes.get? defHashField = some v → v = .string d.hash
  owner : ∀ v, c.attributes.get? entityField = some v →
    (Value.ofJson v).entityId? = some c.entity
  fields : ∀ k, k ∈ reservedFields ∨ c.attributes.get? k = none →
    c.attributes.get? k = d.defaults.get? k

namespace Component

variable {c : Component} {d : Definition}

/-- A component without reserved names that covers the defaults returns. -/
theorem Returns.of_covered (hnames : c.Unreserved)
    (h : ∀ p ∈ d.properties, p.default.isSome → (c.attributes.get? p.name).isSome) :
    c.Returns d := by
  refine ⟨fun v hv => ?_, fun v hv => ?_, fun k hk => ?_⟩
  · rw [hnames _ (by simp [reservedFields])] at hv
    cases hv
  · rw [hnames _ (by simp [reservedFields])] at hv
    cases hv
  · have hnone : c.attributes.get? k = none := hk.elim (hnames k) fun h => h
    rw [hnone, defaults_eq_none_of_covered h k hnone]

/-- The mark of the hash is the hash unless a field takes its place. -/
theorem hashMark_eq_iff : c.hashMark d = .string d.hash ↔
    ∀ v, c.attributes.get? defHashField = some v → v = .string d.hash := by
  unfold hashMark
  cases c.attributes.get? defHashField <;> simp

/-- The mark of the owner names it unless a field takes its place. -/
theorem entityId?_ownerMark_iff (howner : c.entity ≤ maxEntityId) :
    (Value.ofJson c.ownerMark).entityId? = some c.entity ↔
      ∀ v, c.attributes.get? entityField = some v →
        (Value.ofJson v).entityId? = some c.entity := by
  unfold ownerMark
  cases c.attributes.get? entityField with
  | none => simp [entityId?_owner howner]
  | some v => simp

end Component

namespace Store

variable {s : Store} {c c' : Component} {d : Definition}

/-- **A record is read as its component** if and only if the component is one that
returns. -/
theorem recordComponent_eq_self_iff (hsound : s.registry.Sound)
    (hd : s.registry.byId? c.defId = some d) (howner : c.entity ≤ maxEntityId)
    (hassigned : c.entity ≠ unassigned) (hp : ∀ f ∈ (c.record (some d)).entries, f.2.Portable) :
    s.recordComponent (Value.ofJsonFields (c.record (some d)).entries) = .ok c ↔ c.Returns d := by
  rw [recordComponent_record_eq_ok_iff hp hassigned]
  have hid : d.id = c.defId := hsound.id_eq _ d hd
  constructor
  · rintro ⟨e, entity, hmark, howned, hself⟩
    obtain ⟨⟨n, hn⟩, hhash⟩ := eq_hash_of_markedBy? hsound hmark
    have hentity : c.entity = entity := congrArg Component.entity hself
    have hdef : c.defId = e.id := congrArg Component.defId hself
    have hattributes : c.attributes = c.laidOn e.defaults := congrArg Component.attributes hself
    -- the definition that the hash finds has the id of the component
    obtain rfl : e = d := by
      rw [hsound.id_eq n e hn] at hdef
      rw [← hdef, hd] at hn
      exact (Option.some.inj hn).symm
    refine ⟨Component.hashMark_eq_iff.1 hhash, ?_,
      Component.laidOn_eq_attributes_iff.1 hattributes.symm⟩
    exact (Component.entityId?_ownerMark_iff howner).1 (hentity ▸ howned)
  · rintro ⟨hhash, howned, hfields⟩
    refine ⟨d, c.entity, ?_, (Component.entityId?_ownerMark_iff howner).2 howned, ?_⟩
    · rw [Component.hashMark_eq_iff.2 hhash]
      exact markedBy?_hash hsound hd
    · rw [Component.laidOn_eq_attributes_iff.2 hfields, hid]

/-- The text that the export writes for the record of a component. -/
def recordText (s : Store) (c : Component) : String :=
  String.ofList (Json.object (c.record (s.registry.byId? c.defId)).entries).literal

end Store

/-! ## Records as programs -/

namespace Machine

/-- Building a component of a map is reading the map and pushing what it is read as. -/
theorem runValues_build {runList : List Value → Run Flow} {env : Env} {s : State} {store : Store}
    (houter : env.outer = []) (hwords : s.frame.words = []) (hstore : s.store = some store)
    (fields : List (String × Value)) :
    runValues runList [.map fields, .quoted (.word "!c")] env s
      = (andNext do Run.push (.component (← Run.ofExcept (store.recordComponent fields))))
          { env with word := "!c" } s := by
  obtain ⟨⟨items, words⟩, store', selection, journal⟩ := s
  obtain rfl : words = [] := hwords
  obtain rfl : store' = some store := hstore
  let pushed : State := ⟨⟨.map fields :: items, []⟩, some store, selection, journal⟩
  have hfind : (overloads "!c" (pushed.frame :: env.outer)).find?
      (fun w => w.accepts pushed.frame.items)
        = some ⟨[.map], .native (.store .buildComponents)⟩ := by
    rw [houter]
    rfl
  have hname : runValue runList (.quoted (.word "!c")) env pushed
      = runNative runList (.store .buildComponents) { env with word := "!c" } pushed :=
    runName_native (by decide) hfind
  have hpush : runValue runList (.map fields) env ⟨⟨items, []⟩, some store, selection, journal⟩
      = (.ok .next, pushed) := rfl
  -- the word takes the map off again and reads it
  have hnative : runNative runList (.store .buildComponents) { env with word := "!c" } pushed
      = (andNext do Run.push (.component (← Run.ofExcept (store.recordComponent fields))))
          { env with word := "!c" } ⟨⟨items, []⟩, some store, selection, journal⟩ := rfl
  rw [runValues_cons, hpush]
  dsimp only
  rw [runValues_cons, hname, hnative]
  rcases (andNext _) _ _ with ⟨e | _ | _, t⟩ <;> rfl

end Machine

namespace Database

variable {db : Database} {now : Instant} {c : Component}

/-- **A literal that is built** gives the component that its map is read as. -/
theorem query_build_iff {text : String} {fields : List (String × Value)}
    (hwrites : Writes now text.toList [.map fields]) :
    (db.query now (text ++ " !c") []).result = .ok [.component c] ↔
      db.store.recordComponent fields = .ok c := by
  have hbuild : Writes now "!c".toList [.quoted (.word "!c")] :=
    writes_word rfl ⟨'!', by decide⟩ rfl
  have hprogram : Writes now (text ++ " !c").toList [.map fields, .quoted (.word "!c")] := by
    rw [String.toList_append]
    exact hwrites.append ' ' (by decide) hbuild
  unfold query queryUnder
  rw [runWith_of_writes hprogram, runValues_build rfl rfl rfl]
  cases hread : db.store.recordComponent fields with
  | ok read =>
    change Except.ok [Value.component read] = .ok [.component c] ↔ _
    simp
  | error problem =>
    cases problem <;> exact iff_of_false nofun nofun

/-- What comes of building a component again from the text that the export of its
store writes for its record. -/
def readBack (settings : Settings) (now : Instant) (s : Store) (c : Component) :
    Except Failure (List Value) :=
  (query ⟨settings, s⟩ now (s.recordText c ++ " !c") []).result

/-- **When a record reads back as its component.** Take any component with portable
numbers in any store that calls with well-formed data lead to. Captured as a literal
and built again, the text of its record gives the component, with its owner, its
definition and its fields, if and only if the component is one that returns. -/
theorem record_reads_back_iff (settings : Settings) (now : Instant) (calls : List Store.Call)
    (hcalls : ∀ call ∈ calls, call.WellFormed) (id : ComponentId) (c : Component) (d : Definition)
    (hc : ((Store.empty settings.shadowing).afterAll calls).component? id = some c)
    (hd : ((Store.empty settings.shadowing).afterAll calls).definition? (.id c.defId) = some d)
    (hp : Json.PortableFields c.attributes.entries) :
    readBack settings now ((Store.empty settings.shadowing).afterAll calls) c
      = .ok [.component c] ↔ c.Returns d := by
  have hwell := Store.kept_wellFormed.afterAll hcalls
    ⟨Store.consistent_empty settings.shadowing, Store.wellFormed_empty settings.shadowing⟩
  have hregular : ((Store.empty settings.shadowing).afterAll calls).Regular settings.shadowing :=
    (Store.kept_regular settings.shadowing).afterAll (fun _ _ => trivial)
      (Store.regular_empty settings.shadowing)
  generalize (Store.empty settings.shadowing).afterAll calls = s at *
  obtain ⟨hconsistent, hwf⟩ := hwell
  obtain ⟨hkeyed, hassigned, -, -⟩ := hconsistent.row id c hc
  subst hkeyed
  have hdefinition : s.registry.byId? c.defId = some d := hd
  have hdef : c.defId ≤ maxDefId :=
    Nat.le_trans (Nat.le_of_lt_succ (Registry.byId?_lt hdefinition)) hregular.sound.size_le
  have hcw : c.WellFormed := hwf.row _ c hc
  have hwrites : Writes now (s.recordText c).toList
      [.map (Value.ofJsonFields (c.record (some d)).entries)] := by
    rw [Store.recordText, String.toList_ofList, hdefinition]
    exact Component.record_writes hcw hp hassigned hdef
  exact (query_build_iff hwrites).trans (Store.recordComponent_eq_self_iff hregular.sound hdefinition
    hcw.owner hassigned fun f hf => (Component.record_portable hcw hp hassigned hdef f hf).2)

/-- A note that has a size comes back, and one that has none does not: it comes back
with the default size. -/
theorem record_reads_back_iff_size :
    let size : Property := { name := "size", type := .integer, default := some (.int 1) }
    let sized : Component := { entity := 1, defId := 1, attributes := Table.ofList [("size", .int 2)] }
    let bare : Component := { entity := 2, defId := 1 }
    let calls : List Store.Call := [.register { uri := "/note", properties := [size] },
      .add (.many [.component sized, .component bare]) {}]
    let s := (Store.empty true).afterAll calls
    let now : Instant := ⟨2024, 1, 1, 0, 0, 0, 0⟩
    readBack {} now s sized = .ok [.component sized] ∧
      readBack {} now s bare ≠ .ok [.component bare] := by
  intro size sized bare calls s now
  have hcalls : ∀ call ∈ calls, call.WellFormed := by
    intro call hcall
    rcases List.mem_cons.1 hcall with rfl | hcall
    · intro p hp value hvalue
      obtain rfl := List.mem_singleton.1 hp
      obtain rfl := Option.some.inj hvalue
      trivial
    · obtain rfl := List.mem_singleton.1 hcall
      refine ⟨fun c hc => ?_, fun e he => absurd he List.not_mem_nil,
        fun s hs => absurd hs List.not_mem_nil⟩
      have hc : c ∈ [sized, bare] := hc
      simp only [List.mem_cons, List.not_mem_nil, or_false] at hc
      rcases hc with rfl | rfl
      · exact ⟨by decide, trivial, trivial⟩
      · exact ⟨by decide, trivial⟩
  let note : Definition := Schema.define { uri := "/note", properties := [size] } 1
  have hdefinitions : s.registry.definitions = #[note] := rfl
  have hnote : s.definition? (.id 1) = some note := by
    simp [Store.definition?, Registry.find?, Registry.byId?, hdefinitions]
  have hrows : s.components.entries = [(⟨1, 1⟩, sized), (⟨2, 1⟩, bare)] := rfl
  have hsized : s.component? ⟨1, 1⟩ = some sized := Table.mem_entries_iff.1 (by simp [hrows])
  have hbare : s.component? ⟨2, 1⟩ = some bare := Table.mem_entries_iff.1 (by simp [hrows])
  refine ⟨(record_reads_back_iff {} now calls hcalls _ sized note hsized hnote ?_).2 ?_, fun h => ?_⟩
  · exact ⟨show Binary64.fitsInt64 2 = true by decide, trivial⟩
  · refine .of_covered (fun name hname => ?_) fun p hp _ => ?_
    · simp only [reservedFields, List.mem_cons, List.not_mem_nil, or_false] at hname
      rcases hname with rfl | rfl | rfl | rfl <;>
        exact Option.isNone_iff_eq_none.1 (by decide +kernel)
    · obtain rfl := List.mem_singleton.1 hp
      decide +kernel
  · have hreturns := (record_reads_back_iff {} now calls hcalls _ bare note hbare hnote trivial).1 h
    -- the note has no size, and the definition has one
    have hsize := congrArg Option.isSome (hreturns.fields "size" (.inr rfl))
    revert hsize
    decide +kernel

/-- **A store accepts components that their records do not give back.** The first one
comes back with the default of a property that it lacks, the second one under another
owner and without the field that is named like the mark of the owner, and the text of
the third one, whose number is out of the range of the language, is no program. -/
theorem record_reads_back_fails :
    let size : Property := { name := "size", type := .integer, default := some (.int 1) }
    let bare : Component := { entity := 1, defId := 1 }
    let renamed : Component :=
      { entity := 2, defId := 1, attributes := Table.ofList [("@e", .int 5), ("size", .int 2)] }
    let huge : Component :=
      { entity := 3, defId := 1, attributes := Table.ofList [("size", .int 9223372036854775808)] }
    let s := (Store.empty true).afterAll [.register { uri := "/note", properties := [size] },
      .add (.many [.component bare, .component renamed, .component huge]) {}]
    let shown (c : Component) : Option (List String) :=
      (readBack {} ⟨2024, 1, 1, 0, 0, 0, 0⟩ s c).toOption.map (·.map Value.display)
    ([bare, renamed, huge].all fun c => (s.component? c.id).any c.same) = true ∧
      shown bare = some ["(c 1:1 \x7b\"size\":1\x7d)"] ∧
      shown renamed = some ["(c 5:1 \x7b\"size\":2\x7d)"] ∧ shown huge = none := by
  intro size bare renamed huge s shown
  exact ⟨by decide +kernel, by decide +kernel, by decide +kernel, by decide +kernel⟩

end Database

end EntityBase
