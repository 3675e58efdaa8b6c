import EntityBase.Building
import EntityBase.Proofs.Export.Literal
import EntityBase.Proofs.Registry.Copy

/-!
# Records — definitions and components read back

The literal of a definition writes a list that is read as its schema, and
the literal of a component writes a map that is read as a component. The
schema lacks the display name. The map names the definition by its hash,
and the component that is read is by whatever definition that finds, with
the fields of the component over the defaults; a field that is named like
a reserved one takes the place of the mark and is no field any more
(`Store.recordComponent_record_eq_ok_iff`). So a component is read back if
it covers the defaults and no field of it is named like a reserved one
(`Store.recordComponent_record`).
-/

namespace EntityBase

open Machine

variable {now : Instant}

/-- Reading what stands for each of some things, one by one. -/
theorem mapM_map_eq_ok_map {α β γ ε : Type} (f : α → β) (g : β → Except ε γ) (k : α → γ)
    (l : List α) (h : ∀ a ∈ l, g (f a) = .ok (k a)) : (l.map f).mapM g = .ok (l.map k) := by
  induction l with
  | nil => rfl
  | cons a rest ih =>
    rw [List.map_cons, List.mapM_cons, h a (List.mem_cons_self ..),
      ih fun b hb => h b (List.mem_cons_of_mem _ hb)]
    rfl

/-- Reading what stands for each of some things gives the things back. -/
theorem mapM_map_eq_ok {α β ε : Type} (f : α → β) (g : β → Except ε α) (l : List α)
    (h : ∀ a ∈ l, g (f a) = .ok a) : (l.map f).mapM g = .ok l := by
  have hmap := mapM_map_eq_ok_map f g id l h
  rwa [List.map_id] at hmap

/-! ## Definitions -/

namespace Property

/-- The fields of the map that stands for a property. -/
def fields (p : Property) : List (String × Json) :=
  ("name", .string p.name) :: ("type", .string p.type.name) ::
    (p.default.map fun v => ("default", v)).toList

/-- The map that stands for a property. -/
def value (p : Property) : Value := .map (Entries.ofList (Value.ofJsonFields p.fields))

/-- A property whose default is portable. -/
def Portable (p : Property) : Prop := ∀ v, p.default = some v → v.Portable

theorem literal_writes {p : Property} (hw : ∀ v, p.default = some v → v.WellFormed)
    (hp : p.Portable) : Writes now p.literal [p.value] := by
  have htext : p.literal = '\x7b' :: (Json.spaced (p.fields.map fun e =>
      Text.Quoted.encode e.1 ++ ' ' :: e.2.literal) ++ ['\x7d']) := by
    unfold literal fields
    cases p.default <;> rfl
  have hfields : ∀ e ∈ p.fields, Writes now e.2.literal [Value.ofJson e.2] := by
    intro e he
    unfold fields at he
    simp only [List.mem_cons, Option.mem_toList, Option.map_eq_some_iff] at he
    rcases he with rfl | rfl | ⟨v, hv, rfl⟩
    · exact writes_encode _
    · exact writes_encode _
    · exact Json.literal_writes v (hw v hv) (hp v hv)
  have hwrites : Writes now (Json.spaced (p.fields.map fun e =>
      Text.Quoted.encode e.1 ++ ' ' :: e.2.literal))
      (alternating (Value.ofJsonFields p.fields)) := by
    rw [Value.ofJsonFields_eq_map, alternating, List.flatMap_map]
    exact writes_spaced _ _ _ fun e he => (writes_encode e.1).append ' ' (by decide) (hfields e he)
  rw [htext]
  exact hwrites.fields

theorem field?_value (p : Property) :
    Value.field? (Entries.ofList (Value.ofJsonFields p.fields)) "name" = some (.text p.name) ∧
    Value.field? (Entries.ofList (Value.ofJsonFields p.fields)) "type" = some (.text p.type.name) ∧
    Value.field? (Entries.ofList (Value.ofJsonFields p.fields)) "default"
      = p.default.map Value.ofJson := by
  unfold Value.field? Entries.ofList Entries.extend fields
  cases p.default <;> simp [Value.ofJsonFields, Entries.get?_insert, Value.ofJson]

/-- The map that stands for a property is read as the property. -/
theorem toProperty_value {p : Property} (hp : p.Portable) : p.value.toProperty = .ok p := by
  obtain ⟨hname, htype, hdefault⟩ := p.field?_value
  have hnameText : (Value.text p.name).name? = some p.name := rfl
  have htypeText : (Value.text p.type.name).name? = some p.type.name := rfl
  have hstored : (p.default.map Value.ofJson).map Value.toJson = p.default := by
    cases h : p.default with
    | none => rfl
    | some v => exact congrArg some (Value.toJson_ofJson v (hp v h))
  unfold value Value.toProperty
  simp only [hname, htype, hdefault, Option.bind_some, hnameText, htypeText, hstored,
    PropertyType.ofName?_name]

end Property

namespace Definition

/-- The list that stands for a definition. -/
def value (d : Definition) : Value :=
  .list [.text d.uri, .list (d.properties.map Property.value)]

theorem literal_writes {d : Definition} (hw : d.schema.WellFormed)
    (hp : ∀ p ∈ d.properties, p.Portable) : Writes now d.literal [d.value] := by
  have hproperties : Writes now (Json.spaced (d.properties.map Property.literal))
      (d.properties.map Property.value) := by
    rw [List.map_eq_flatMap (f := Property.value)]
    exact writes_spaced _ _ _ fun p hmem => Property.literal_writes (hw p hmem) (hp p hmem)
  have htext : d.literal = '[' :: ((Text.Quoted.encode d.uri ++ ' ' ::
      ('[' :: (Json.spaced (d.properties.map Property.literal) ++ [']']))) ++ [']']) := by
    simp [literal]
  rw [htext]
  exact ((writes_encode d.uri).append ' ' (by decide) hproperties.list).list

/-- The list that stands for a definition is read as its schema. -/
theorem toSchema_value {d : Definition} (hp : ∀ p ∈ d.properties, p.Portable) :
    d.value.toSchema = .ok d.unnamed.schema := by
  have hproperties := mapM_map_eq_ok Property.value Value.toProperty d.properties
    fun p hmem => Property.toProperty_value (hp p hmem)
  have hread : d.value.toSchema
      = ([Value.list (d.properties.map Property.value)].mapM Value.toProperties).map fun ps =>
          { uri := d.uri, properties := ps.flatten } := rfl
  have hlist : [Value.list (d.properties.map Property.value)].mapM Value.toProperties
      = .ok [d.properties] := by
    rw [List.mapM_cons, Value.toProperties, hproperties]
    rfl
  rw [hread, hlist]
  simp [Except.map, unnamed, schema]

end Definition

/-! ## Components -/

/-- Ids are whole numbers of 64 bits. -/
theorem fitsInt64_of_le {n : Nat} (h : n ≤ maxEntityId) : Binary64.fitsInt64 n = true := by
  have h : n ≤ 4294967295 := h
  unfold Binary64.fitsInt64 Binary64.minInt64 Binary64.maxInt64
  simp only [Bool.and_eq_true, decide_eq_true_eq]
  omega

namespace Component

variable {c : Component} {d : Definition}

/-- The reserved fields in the record of a component that has an owner. -/
def markers (c : Component) (d : Definition) : List (String × Json) :=
  [(entityField, .int c.entity), (defIdField, .int c.defId), (defUriField, .string d.uri),
    (defHashField, .string d.hash)]

/-- No field is named like a reserved one. -/
def Unreserved (c : Component) : Prop :=
  ∀ name ∈ reservedFields, c.attributes.get? name = none

theorem get?_markers_of_not_reserved {k : String} (hk : k ∉ reservedFields) :
    Entries.get? k (Entries.ofList (c.markers d)) = none := by
  cases hget : Entries.get? k (Entries.ofList (c.markers d)) with
  | none => rfl
  | some v =>
    rcases Entries.mem_extend (Entries.mem_of_get? hget) with hmem | hmem
    · simp only [markers, List.mem_cons, Prod.mk.injEq, List.not_mem_nil, or_false] at hmem
      simp only [reservedFields, List.mem_cons, List.not_mem_nil, or_false, not_or] at hk
      tauto
    · cases hmem

/-- A record holds the fields of its component, and the reserved ones. -/
theorem get?_record (howner : c.entity ≠ unassigned) (k : String) :
    (c.record (some d)).get? k
      = (c.attributes.get? k).or (Entries.get? k (Entries.ofList (c.markers d))) := by
  have hentity : c.hasEntity = true := by simpa [hasEntity] using howner
  have hrecord : (c.record (some d)).entries
      = Entries.extend (Entries.ofList (c.markers d)) c.attributes.entries := by
    unfold record
    rw [hentity]
    exact List.foldl_append
  unfold Table.get?
  rw [hrecord, c.attributes.sorted.get?_extend]

theorem mem_record {e : String × Json} (howner : c.entity ≠ unassigned)
    (h : e ∈ (c.record (some d)).entries) : e ∈ c.attributes.entries ∨ e ∈ c.markers d := by
  have hget := Entries.Sorted.get?_of_mem (c.record (some d)).sorted h
  have hget : (c.record (some d)).get? e.1 = some e.2 := hget
  rw [get?_record howner] at hget
  rcases Option.or_eq_some_iff.1 hget with hown | ⟨-, hmarker⟩
  · exact Or.inl (Entries.mem_of_get? hown)
  · rcases Entries.mem_extend (Entries.mem_of_get? hmarker) with hmem | hmem
    · exact Or.inr hmem
    · cases hmem

theorem get?_markers (c : Component) (d : Definition) :
    Entries.get? entityField (Entries.ofList (c.markers d)) = some (.int c.entity) ∧
    Entries.get? defHashField (Entries.ofList (c.markers d)) = some (.string d.hash) := by
  unfold Entries.ofList Entries.extend markers
  simp [Entries.get?_insert, entityField, defIdField, defUriField, defHashField]

/-- Every field of the record of a portable component is portable. -/
theorem record_portable (hc : c.WellFormed) (hp : Json.PortableFields c.attributes.entries)
    (howner : c.entity ≠ unassigned) (hdef : c.defId ≤ maxDefId) :
    ∀ e ∈ (c.record (some d)).entries, e.2.WellFormed ∧ e.2.Portable := by
  intro e he
  rcases mem_record howner he with hown | hmarker
  · exact ⟨Json.wellFormedFields_iff.1 hc.fields e hown, Json.portableFields_iff.1 hp e hown⟩
  · simp only [markers, List.mem_cons, List.not_mem_nil, or_false] at hmarker
    rcases hmarker with rfl | rfl | rfl | rfl
    · exact ⟨trivial, fitsInt64_of_le hc.owner⟩
    · exact ⟨trivial, fitsInt64_of_le (Nat.le_trans hdef (by decide))⟩
    · exact ⟨trivial, trivial⟩
    · exact ⟨trivial, trivial⟩

/-- **The record of a component** writes the map of its fields. -/
theorem record_writes (hc : c.WellFormed) (hp : Json.PortableFields c.attributes.entries)
    (howner : c.entity ≠ unassigned) (hdef : c.defId ≤ maxDefId) :
    Writes now (Json.object (c.record (some d)).entries).literal
      [.map (Value.ofJsonFields (c.record (some d)).entries)] :=
  Json.spacedFields_writes (c.record (some d)).sorted fun e he =>
    have hfield := record_portable hc hp howner hdef e he
    Json.literal_writes e.2 hfield.1 hfield.2

end Component

/-! ## Reading a record -/

namespace Component

variable {c : Component} {d : Definition} {base : Table String Json}

/-- The fields of a component that are not named like reserved ones, laid on others. -/
def laidOn (c : Component) (base : Table String Json) : Table String Json :=
  (c.attributes.entries.filter fun f => !reservedFields.contains f.1).foldl
    (fun t f => t.insert f.1 f.2) base

theorem get?_laidOn (c : Component) (base : Table String Json) (k : String) :
    (c.laidOn base).get? k
      = if k ∈ reservedFields then base.get? k else (c.attributes.get? k).or (base.get? k) := by
  have hsorted := Entries.Sorted.filter c.attributes.sorted fun f => !reservedFields.contains f.1
  unfold laidOn Table.get?
  rw [Table.entries_foldl_insert, hsorted.get?_extend,
    Entries.get?_filter (fun k => !reservedFields.contains k)]
  by_cases hk : k ∈ reservedFields <;> simp [hk]

/-- What the fields of a component are laid on shows where the component has no
field, and behind the reserved names. -/
theorem laidOn_eq_attributes_iff : c.laidOn base = c.attributes ↔
    ∀ k, k ∈ reservedFields ∨ c.attributes.get? k = none →
      c.attributes.get? k = base.get? k := by
  constructor
  · intro h k hk
    rw [← h, get?_laidOn]
    rcases hk with hk | hk
    · rw [if_pos hk]
    · rw [hk, Option.none_or, ite_self]
  · intro h
    refine Table.ext_get? fun k => ?_
    rw [get?_laidOn]
    by_cases hk : k ∈ reservedFields
    · rw [if_pos hk, h k (.inl hk)]
    · rw [if_neg hk]
      cases hget : c.attributes.get? k with
      | some v => rfl
      | none => rw [Option.none_or, ← h k (.inr hget), hget]

/-- Where a component that has a value for each default has no field, there is no
default. -/
theorem defaults_eq_none_of_covered
    (h : ∀ p ∈ d.properties, p.default.isSome → (c.attributes.get? p.name).isSome) (k : String)
    (hk : c.attributes.get? k = none) : d.defaults.get? k = none := by
  cases hget : d.defaults.get? k with
  | none => rfl
  | some v =>
    rcases Entries.mem_extend (Entries.mem_of_get? hget) with hmem | hmem
    · obtain ⟨p, hp, hdefault⟩ := List.mem_filterMap.1 hmem
      obtain ⟨value, hvalue, heq⟩ := Option.map_eq_some_iff.1 hdefault
      obtain ⟨rfl, rfl⟩ := Prod.mk.inj heq
      have hcovered := h p hp (by rw [hvalue]; rfl)
      rw [hk] at hcovered
      cases hcovered
    · cases hmem

/-- No field is lost and none is gained over what a component covers. -/
theorem laidOn_of_covered (hnames : c.Unreserved)
    (hbase : ∀ k, c.attributes.get? k = none → base.get? k = none) : c.laidOn base = c.attributes := by
  refine laidOn_eq_attributes_iff.2 fun k hk => ?_
  have hnone : c.attributes.get? k = none := hk.elim (hnames k) fun h => h
  rw [hnone, hbase k hnone]

/-- The portable fields of a record that are not reserved, laid on others, are the
fields of the component laid on these. -/
theorem own_record (hp : ∀ f ∈ (c.record (some d)).entries, f.2.Portable)
    (howner : c.entity ≠ unassigned) :
    (Value.toJsonFields ((Value.ofJsonFields (c.record (some d)).entries).filter
        fun f => !reservedFields.contains f.1)).foldl (fun t f => t.insert f.1 f.2) base
      = c.laidOn base := by
  have hfilter : (Value.ofJsonFields (c.record (some d)).entries).filter
        (fun f => !reservedFields.contains f.1)
      = Value.ofJsonFields ((c.record (some d)).entries.filter
          fun f => !reservedFields.contains f.1) := by
    rw [Value.ofJsonFields_eq_map, Value.ofJsonFields_eq_map, List.filter_map]
    rfl
  have hportable : Json.PortableFields ((c.record (some d)).entries.filter
      fun f => !reservedFields.contains f.1) :=
    Json.portableFields_iff.2 fun f hf => hp f (List.mem_filter.1 hf).1
  rw [hfilter, Value.toJsonFields_ofJsonFields _ hportable]
  have hsorted := Entries.Sorted.filter (c.record (some d)).sorted
    fun f => !reservedFields.contains f.1
  refine Table.ext_get? fun k => ?_
  rw [get?_laidOn]
  unfold Table.get?
  rw [Table.entries_foldl_insert, hsorted.get?_extend,
    Entries.get?_filter (fun k => !reservedFields.contains k)]
  -- under a key the record has the field of the component, or a reserved one
  have hrecord : Entries.get? k (c.record (some d)).entries
      = (c.attributes.get? k).or (Entries.get? k (Entries.ofList (c.markers d))) :=
    get?_record howner k
  by_cases hk : k ∈ reservedFields
  · simp [hk]
  · rw [hrecord, get?_markers_of_not_reserved hk, Option.or_none]
    simp [hk, Table.get?]

/-- What a record says of the hash of its definition: the reserved field, unless a
field of the component is named like it. -/
def hashMark (c : Component) (d : Definition) : Json :=
  (c.attributes.get? defHashField).getD (.string d.hash)

/-- What a record says of the owner, likewise. -/
def ownerMark (c : Component) : Json := (c.attributes.get? entityField).getD (.int c.entity)

theorem field?_record (howner : c.entity ≠ unassigned) :
    Value.field? (Value.ofJsonFields (c.record (some d)).entries) defHashField
      = some (Value.ofJson (c.hashMark d)) ∧
    Value.field? (Value.ofJsonFields (c.record (some d)).entries) entityField
      = some (Value.ofJson c.ownerMark) := by
  have hfield : ∀ k, Value.field? (Value.ofJsonFields (c.record (some d)).entries) k
      = ((c.record (some d)).get? k).map Value.ofJson := by
    intro k
    rw [Value.ofJsonFields_eq_map]
    exact Entries.get?_map Value.ofJson k _
  obtain ⟨hentityMark, hhashMark⟩ := c.get?_markers d
  rw [hfield, hfield, get?_record howner, get?_record howner, hentityMark, hhashMark]
  unfold hashMark ownerMark
  cases c.attributes.get? defHashField <;> cases c.attributes.get? entityField <;>
    exact ⟨rfl, rfl⟩

/-- The owner that an unchanged mark names. -/
theorem entityId?_owner (howner : c.entity ≤ maxEntityId) :
    (Value.ofJson (.int c.entity)).entityId? = some c.entity := by
  have hvalue : Value.ofJson (.int c.entity) = .int c.entity := if_pos (fitsInt64_of_le howner)
  have hrange : (0 : Int) ≤ (c.entity : Nat) ∧ ((c.entity : Nat) : Int) ≤ maxEntityId :=
    ⟨Int.natCast_nonneg _, Int.ofNat_le.2 howner⟩
  have hread : (Value.int c.entity).entityId? = EntityId.ofInt? (c.entity : Nat) := rfl
  rw [hvalue, hread, EntityId.ofInt?, if_pos hrange]
  rfl

end Component

/-- The definition that a mark of a hash finds. -/
def Store.markedBy? (s : Store) (mark : Json) : Option Definition :=
  (Value.ofJson mark).name?.bind fun h => s.definition? (.hash h)

/-- **What the record of a component is read as**: a component of the definition that
its hash finds and of the owner that it names, with its fields over the defaults. -/
theorem Store.recordComponent_record_eq_ok_iff {s : Store} {c c' : Component} {d : Definition}
    (hp : ∀ f ∈ (c.record (some d)).entries, f.2.Portable) (howner : c.entity ≠ unassigned) :
    s.recordComponent (Value.ofJsonFields (c.record (some d)).entries) = .ok c' ↔
      ∃ e entity, s.markedBy? (c.hashMark d) = some e ∧
        (Value.ofJson c.ownerMark).entityId? = some entity ∧
        c' = { entity, defId := e.id, attributes := c.laidOn e.defaults } := by
  obtain ⟨hhash, hentity⟩ := Component.field?_record (d := d) howner
  have hattributes : ∀ base : Table String Json, _ = c.laidOn base :=
    fun _ => Component.own_record hp howner
  unfold recordComponent recordDefinition markedBy?
  simp only [hhash, hentity, hattributes]
  cases (Value.ofJson (c.hashMark d)).name?.bind fun h => s.definition? (.hash h) with
  | none => simp
  | some e =>
    cases (Value.ofJson c.ownerMark).entityId? with
    | none => simp
    | some entity => simp [Definition.fresh, @eq_comm _ c']

/-- **A component is read back from its record** by the definition that its hash
finds, if it covers the defaults of that. -/
theorem Store.recordComponent_record {s : Store} {c : Component} {d e : Definition}
    (hc : c.WellFormed) (hp : Json.PortableFields c.attributes.entries)
    (howner : c.entity ≠ unassigned) (hdef : c.defId ≤ maxDefId) (hnames : c.Unreserved)
    (hfind : s.definition? (.hash d.hash) = some e)
    (hdefaults : ∀ k, c.attributes.get? k = none → e.defaults.get? k = none) :
    s.recordComponent (Value.ofJsonFields (c.record (some d)).entries)
      = .ok { c with defId := e.id } := by
  have hportable : ∀ f ∈ (c.record (some d)).entries, f.2.Portable :=
    fun f hf => (Component.record_portable hc hp howner hdef f hf).2
  -- no field is named like a reserved one, so the marks are found
  have hhashMark : c.hashMark d = .string d.hash := by
    rw [Component.hashMark, hnames _ (by simp [reservedFields])]
    rfl
  have hownerMark : c.ownerMark = .int c.entity := by
    rw [Component.ownerMark, hnames _ (by simp [reservedFields])]
    rfl
  refine (recordComponent_record_eq_ok_iff hportable howner).2 ⟨e, c.entity, ?_, ?_, ?_⟩
  · rw [hhashMark]
    exact hfind
  · rw [hownerMark]
    exact Component.entityId?_owner hc.owner
  · rw [Component.laidOn_of_covered hnames hdefaults]

end EntityBase
