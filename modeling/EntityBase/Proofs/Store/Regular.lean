import EntityBase.Proofs.Store.Consistent

/-!
# Regular stores — what no call departs from

Besides keeping its tables in agreement, a store keeps the policy that it
started with, a sound registry, in which without shadowing no uri is borne
twice, and shapes that are plain sets: no call gives a stored shape a mode
or the sentinel. So the shapes of a consistent store are settled by the keys of its rows
(`entities_eq_of_keys_eq`).
-/

namespace EntityBase

namespace Bitfield

/-- A bitfield that is nothing but a set. -/
def Plain (b : Bitfield) : Prop := b.mode = .and ∧ b.all = false

theorem plain_empty : empty.Plain := ⟨rfl, rfl⟩

theorem Plain.insert {b : Bitfield} (h : b.Plain) (d : DefId) : (b.insert d).Plain := h

theorem Plain.erase {b : Bitfield} (h : b.Plain) (d : DefId) : (b.erase d).Plain := h

end Bitfield

namespace Store

variable {s t : Store} {shadowing : Bool}

/-- Every stored shape is a plain set. -/
def PlainShapes (s : Store) : Prop :=
  ∀ e shape, s.entities.get? e = some shape → shape.Plain

theorem PlainShapes.writeRow (hs : s.PlainShapes) (id : ComponentId) (c : Component) :
    (s.writeRow id c).PlainShapes := by
  intro e shape hshape
  rw [entities_writeRow] at hshape
  split at hshape
  · obtain rfl := Option.some.inj hshape
    cases hold : s.entities.get? e with
    | none => exact Bitfield.plain_empty.insert _
    | some old => exact (hs e old hold).insert _
  · exact hs e shape hshape

theorem PlainShapes.dropRow (hs : s.PlainShapes) (id : ComponentId) :
    (s.dropRow id).PlainShapes := by
  intro e shape hshape
  rw [entities_dropRow] at hshape
  split at hshape
  · obtain ⟨old, hold, rfl⟩ := Option.map_eq_some_iff.1 hshape
    exact (hs e old hold).erase _
  · exact hs e shape hshape

theorem PlainShapes.dropRows (hs : s.PlainShapes) (rows : KeySet ComponentId) :
    (s.dropRows rows).PlainShapes := by
  have hdropped : (rows.keys.foldl Store.dropRow s).PlainShapes :=
    List.foldlRecOn rows.keys Store.dropRow hs fun s hs id _ => hs.dropRow id
  intro e shape hshape
  unfold Store.dropRows at hshape
  rw [entities_foldl_settle] at hshape
  split at hshape
  · cases hshape
  · exact hdropped e shape hshape

theorem PlainShapes.apply (hs : s.PlainShapes) (p : Plan) : (s.apply p).PlainShapes := by
  have hstart : ({ s with nextEntity := p.nextEntity } : Store).PlainShapes := hs
  have hwritten := List.foldlRecOn p.upserts.entries (fun s row => s.writeRow row.1 row.2) hstart
    fun s hs row _ => hs.writeRow row.1 row.2
  exact hwritten.dropRows p.removals

theorem PlainShapes.add (hs : s.PlainShapes) {item : Item} {options : CallOptions}
    (h : s.add item options = .ok t) : t.PlainShapes := by
  obtain ⟨r, p, -, -, rfl⟩ := add_cases h
  have hopened : ({ s.opened options with registry := r } : Store).PlainShapes := by
    unfold Store.opened
    split <;> exact hs
  exact hopened.apply p

/-- What every call keeps besides the agreement of the tables. -/
structure Regular (shadowing : Bool) (s : Store) : Prop where
  policy : s.shadowing = shadowing
  sound : s.registry.Sound
  distinct : shadowing = false → s.registry.DistinctUris
  plain : s.PlainShapes

theorem regular_empty (shadowing : Bool) : (empty shadowing).Regular shadowing := by
  refine ⟨rfl, Registry.sound_empty, fun _ n m d e hn => ?_, fun e shape hshape => ?_⟩
  · rw [show (empty shadowing).registry = .empty from rfl, Registry.byId?_empty] at hn
    cases hn
  · cases hshape

/-- A store with the policy and the registry of a regular one. -/
theorem Regular.of_header (hs : s.Regular shadowing) (h : t.header = s.header)
    (hplain : t.PlainShapes) : t.Regular shadowing := by
  have hpolicy : t.shadowing = s.shadowing := congrArg (·.1) h
  have hregistry := registry_eq_of_header h
  refine ⟨hpolicy.trans hs.policy, ?_, ?_, hplain⟩
  · rw [hregistry]
    exact hs.sound
  · rw [hregistry]
    exact hs.distinct

/-- Registering a schema keeps a store regular. -/
theorem Regular.register (hs : s.Regular shadowing) {schema : Schema} {r : Registry}
    {outcome : Registration} (h : s.registry.register schema s.shadowing = .ok (r, outcome)) :
    ({ s with registry := r } : Store).Regular shadowing := by
  refine ⟨hs.policy, hs.sound.register h, fun hshadowing => ?_, hs.plain⟩
  rw [hs.policy, hshadowing] at h
  exact (hs.distinct hshadowing).register hs.sound h

theorem Regular.registerAll (hs : s.Regular shadowing) {schemas : List Schema} {r : Registry}
    (h : registerAll s.shadowing s.registry schemas = .ok r) :
    ({ s with registry := r } : Store).Regular shadowing :=
  registerAll_induction (P := fun q => ({ s with registry := q } : Store).Regular shadowing) h hs
    fun q _ _ _ _ hq hreg => Regular.register (s := { s with registry := q }) hq hreg

theorem Regular.opened (hs : s.Regular shadowing) (options : CallOptions) :
    (s.opened options).Regular shadowing := by
  unfold Store.opened
  split
  · exact hs
  · exact hs.of_header rfl hs.plain

theorem Regular.dropRows (hs : s.Regular shadowing) (rows : KeySet ComponentId) :
    (s.dropRows rows).Regular shadowing :=
  hs.of_header (header_dropRows s rows) (hs.plain.dropRows rows)

theorem Regular.apply (hs : s.Regular shadowing) (p : Plan) : (s.apply p).Regular shadowing := by
  have hstart : ({ s with nextEntity := p.nextEntity } : Store).Regular shadowing :=
    ⟨hs.policy, hs.sound, hs.distinct, hs.plain⟩
  exact hstart.of_header (header_apply p s) (hs.plain.apply p)

theorem Regular.add (hs : s.Regular shadowing) {item : Item} {options : CallOptions}
    (h : s.add item options = .ok t) : t.Regular shadowing := by
  obtain ⟨r, p, hreg, -, rfl⟩ := add_cases h
  have hopened := hs.opened options
  have hopenedReg : Store.registerAll (s.opened options).shadowing (s.opened options).registry
      item.batch.schemas = .ok r := by
    unfold Store.opened
    split <;> exact hreg
  exact (hopened.registerAll hopenedReg).apply p

/-- **Every accepted call keeps a store regular.** -/
theorem kept_regular (shadowing : Bool) : Kept (fun _ => True) (Regular shadowing) := by
  intro s call t _ hs h
  cases call with
  | register schema =>
    obtain ⟨r, outcome, hreg, rfl⟩ := register_cases h
    exact hs.register hreg
  | add item options =>
    rw [attempt_add] at h
    exact hs.add h
  | removeComponents ids options =>
    obtain rfl := Except.ok.inj h
    exact (hs.opened options).dropRows _
  | removeEntities ids options =>
    obtain rfl := Except.ok.inj h
    exact (hs.opened options).dropRows _
  | clearChanges =>
    obtain rfl := Except.ok.inj h
    exact hs.of_header rfl hs.plain
  | clone options =>
    obtain rfl := Except.ok.inj h
    obtain ⟨entities, definitions⟩ := options
    have hempty : (empty s.shadowing).Regular shadowing := by
      rw [hs.policy]
      exact regular_empty shadowing
    cases entities with
    | true => cases definitions <;> exact ⟨hs.policy, hs.sound, hs.distinct, hs.plain⟩
    | false =>
      cases definitions with
      | true => exact ⟨hs.policy, hs.sound, hs.distinct, hempty.plain⟩
      | false => exact hempty

/-- **The keys of the rows of consistent stores settle their shapes.** -/
theorem entities_eq_of_keys_eq (hs : s.Consistent) (ht : t.Consistent)
    (hsplain : s.PlainShapes) (htplain : t.PlainShapes)
    (h : ∀ id, (t.components.get? id).isSome = (s.components.get? id).isSome) :
    t.entities = s.entities := by
  -- the rows settle the bits, and a plain shape is its bits
  have hbit : ∀ e d, t.HasBit e d ↔ s.HasBit e d := by
    intro e d
    rw [ht.bit_iff, hs.bit_iff, h]
  refine Table.ext_get? fun e => ?_
  cases hshape : s.entities.get? e with
  | none =>
    cases hcopy : t.entities.get? e with
    | none => rfl
    | some shape =>
      obtain ⟨d, hd⟩ := Bitfield.isEmpty_eq_false_iff.1 (ht.nonempty e shape hcopy)
      obtain ⟨shape', hshape', -⟩ := (hbit e d).1 ⟨shape, hcopy, hd⟩
      rw [hshape] at hshape'
      cases hshape'
  | some shape =>
    obtain ⟨d, hd⟩ := Bitfield.isEmpty_eq_false_iff.1 (hs.nonempty e shape hshape)
    obtain ⟨copy, hcopy, -⟩ := (hbit e d).2 ⟨shape, hshape, hd⟩
    have hmember : ∀ d, copy.contains d = shape.contains d := by
      intro d
      have := hbit e d
      unfold HasBit at this
      rw [hcopy, hshape] at this
      simpa using this
    obtain ⟨hmode, hall⟩ := hsplain e shape hshape
    obtain ⟨hmode', hall'⟩ := htplain e copy hcopy
    rw [hcopy, Bitfield.ext_mem (hmode'.trans hmode.symm) (hall'.trans hall.symm) hmember]

theorem entities_eq_of_components_eq (hs : s.Consistent) (ht : t.Consistent)
    (hsplain : s.PlainShapes) (htplain : t.PlainShapes) (h : t.components = s.components) :
    t.entities = s.entities :=
  entities_eq_of_keys_eq hs ht hsplain htplain fun id => by rw [h]

end Store

end EntityBase
