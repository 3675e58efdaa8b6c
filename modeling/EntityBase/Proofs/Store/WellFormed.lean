import EntityBase.Proofs.Store.Consistent
import EntityBase.Proofs.WellFormed

/-!
# Well-formed stores — the data of a store are those of its calls

A store invents no data: its rows are components of the batches that were
added, each under the owner that planning gave it, and its definitions are
schemas that were registered. So a store whose calls hand over well-formed
data holds well-formed data.
-/

namespace EntityBase

/-- Well-formed components, entities and schemas. -/
structure Batch.WellFormed (b : Batch) : Prop where
  components : ∀ c ∈ b.components, c.WellFormed
  entities : ∀ e ∈ b.entities, e.id ≤ maxEntityId ∧
    ∀ c ∈ e.components.values, Json.WellFormedFields c.attributes.entries
  schemas : ∀ s ∈ b.schemas, s.WellFormed

theorem Batch.WellFormed.fits {b : Batch} (h : b.WellFormed) : b.Fits Component.WellFormed := by
  refine ⟨h.components, fun c hc id hid => ⟨hid, (h.components c hc).fields⟩, ?_⟩
  intro e he c hc id hid
  obtain ⟨hcap, hfields⟩ := h.entities e he
  refine ⟨?_, hfields c hc⟩
  rcases hid with rfl | hid
  · exact hcap
  · exact hid

namespace Store

/-- A call that hands over well-formed data. -/
def Call.WellFormed : Call → Prop
  | .register schema => schema.WellFormed
  | .add item _ => item.batch.WellFormed
  | _ => True

/-- Every row and every definition is well-formed. -/
structure WellFormed (s : Store) : Prop where
  row : ∀ id c, s.components.get? id = some c → c.WellFormed
  definition : ∀ n d, s.registry.byId? n = some d → d.schema.WellFormed

variable {s t : Store}

theorem wellFormed_empty (shadowing : Bool) : (empty shadowing).WellFormed := by
  refine ⟨fun id c hc => ?_, fun n d hd => ?_⟩
  · cases hc
  · rw [show (empty shadowing).registry = .empty from rfl, Registry.byId?_empty] at hd
    cases hd

/-- A registration brings the definition of its schema and no other. -/
theorem schema_wellFormed_register {r r' : Registry} {schema : Schema} {shadowing : Bool}
    {outcome : Registration} (h : r.register schema shadowing = .ok (r', outcome))
    (hr : ∀ n d, r.byId? n = some d → d.schema.WellFormed) (hschema : schema.WellFormed) :
    ∀ n d, r'.byId? n = some d → d.schema.WellFormed := by
  intro n d hd
  rcases Registry.register_cases h with ⟨rfl, -⟩ | ⟨rfl, -⟩
  · exact hr n d hd
  · rcases Registry.byId?_push_eq_some_iff.1 hd with ⟨-, rfl⟩ | hd
    · exact hschema
    · exact hr n d hd

theorem schema_wellFormed_registerAll {shadowing : Bool} {r r' : Registry} {schemas : List Schema}
    (h : registerAll shadowing r schemas = .ok r')
    (hr : ∀ n d, r.byId? n = some d → d.schema.WellFormed)
    (hschemas : ∀ schema ∈ schemas, schema.WellFormed) :
    ∀ n d, r'.byId? n = some d → d.schema.WellFormed :=
  registerAll_induction (P := fun q => ∀ n d, q.byId? n = some d → d.schema.WellFormed) h hr
    fun _ _ _ schema hschema hq hreg =>
      schema_wellFormed_register hreg hq (hschemas schema hschema)

theorem WellFormed.dropRows (hs : s.WellFormed) (rows : KeySet ComponentId) :
    (s.dropRows rows).WellFormed := by
  refine ⟨fun id c hc => ?_, ?_⟩
  · rw [components_dropRows] at hc
    split at hc
    · cases hc
    · exact hs.row id c hc
  · rw [registry_eq_of_header (header_dropRows s rows)]
    exact hs.definition

theorem WellFormed.opened (hs : s.WellFormed) (options : CallOptions) :
    (s.opened options).WellFormed := by
  unfold Store.opened
  split
  · exact hs
  · exact ⟨hs.row, hs.definition⟩

/-- What is written is the row that was there, or one of the batch. -/
theorem WellFormed.apply (hs : s.WellFormed) {p : Plan}
    (hp : ∀ id c, p.upserts.get? id = some c → c.WellFormed) : (s.apply p).WellFormed := by
  refine ⟨fun id c hc => ?_, ?_⟩
  · rw [components_apply] at hc
    split at hc
    · cases hc
    split at hc
    · rename_i new hnew
      obtain rfl := Option.some.inj hc
      unfold rowAfter
      split
      · rename_i old hold
        split
        · exact hs.row id old hold
        · exact hp id new hnew
      · exact hp id new hnew
    · exact hs.row id c hc
  · rw [registry_eq_of_header (header_apply p s)]
    exact hs.definition

theorem WellFormed.add (hs : s.WellFormed) (hconsistent : s.Consistent) {item : Item}
    {options : CallOptions} (hitem : item.batch.WellFormed) (h : s.add item options = .ok t) :
    t.WellFormed := by
  obtain ⟨r, p, hreg, hplan, rfl⟩ := add_cases h
  have hopened := hs.opened options
  have hr := schema_wellFormed_registerAll hreg hs.definition hitem.schemas
  have hstaged : ({ s.opened options with registry := r } : Store).WellFormed :=
    ⟨hopened.row, hr⟩
  exact hstaged.apply (sound_plan hconsistent.capped hitem.fits hplan).1.fits

/-- **Calls that hand over well-formed data keep the data well-formed.** -/
theorem kept_wellFormed : Kept Call.WellFormed fun s => s.Consistent ∧ s.WellFormed := by
  intro s call t hcall hs h
  obtain ⟨hconsistent, hs⟩ := hs
  refine ⟨kept_consistent s call t trivial hconsistent h, ?_⟩
  cases call with
  | register schema =>
    obtain ⟨r, outcome, hreg, rfl⟩ := register_cases h
    exact ⟨hs.row, schema_wellFormed_register hreg hs.definition hcall⟩
  | add item options =>
    rw [attempt_add] at h
    exact hs.add hconsistent hcall h
  | removeComponents ids options =>
    obtain rfl := Except.ok.inj h
    exact (hs.opened options).dropRows _
  | removeEntities ids options =>
    obtain rfl := Except.ok.inj h
    exact (hs.opened options).dropRows _
  | clearChanges =>
    obtain rfl := Except.ok.inj h
    exact ⟨hs.row, hs.definition⟩
  | clone options =>
    obtain rfl := Except.ok.inj h
    obtain ⟨entities, definitions⟩ := options
    have hempty := wellFormed_empty s.shadowing
    cases entities with
    | true => exact ⟨hs.row, by simpa [Store.clone] using hs.definition⟩
    | false =>
      cases definitions with
      | true => exact ⟨hempty.row, hs.definition⟩
      | false => exact hempty

end Store

end EntityBase
