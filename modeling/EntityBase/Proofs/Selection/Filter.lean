import EntityBase.Proofs.Store.Consistent
import EntityBase.Selection

/-!
# Filters and masks, by the stored components

A mask and the leaves of a filter are evaluated on shapes, bit by bit and
list by list. What they ask of an entity is said here in terms of the
components that it has: `Store.Meets` for a mask, `Filter.Holds` for a
filter. In a store whose tables agree the two readings are one
(`meets_iff`, `mem_apply_iff`).
-/

namespace EntityBase

/-! ## Masks on shapes -/

namespace Bitfield

variable {mask shape : Bitfield}

theorem and_bits_eq_iff :
    shape.bits &&& mask.bits = mask.bits ↔ ∀ d, mask.contains d = true → shape.contains d = true := by
  constructor
  · intro h d hd
    have hbit := congrArg (Nat.testBit · d) h
    simp only [Nat.testBit_and] at hbit
    simp_all [contains]
  · intro h
    refine Nat.eq_of_testBit_eq fun d => ?_
    have hd := h d
    simp only [contains] at hd
    rw [Nat.testBit_and]
    cases hm : mask.bits.testBit d <;> simp_all

theorem and_bits_eq_zero_iff :
    shape.bits &&& mask.bits = 0 ↔ ∀ d, mask.contains d = true → shape.contains d = false := by
  constructor
  · intro h d hd
    have hbit := congrArg (Nat.testBit · d) h
    simp only [Nat.testBit_and, Nat.zero_testBit] at hbit
    simp_all [contains]
  · intro h
    refine Nat.eq_of_testBit_eq fun d => ?_
    have hd := h d
    simp only [contains] at hd
    rw [Nat.testBit_and, Nat.zero_testBit]
    cases hm : mask.bits.testBit d <;> simp_all

/-- What a mask asks of the members of a shape, in each of its modes. -/
theorem matchesShape_iff : mask.matchesShape shape = true ↔ mask.all = true ∨
    match mask.mode with
    | .and => ∀ d, mask.contains d = true → shape.contains d = true
    | .or => ∃ d, mask.contains d = true ∧ shape.contains d = true
    | .not => ∀ d, mask.contains d = true → ¬ shape.contains d = true
    | .notAll => ∃ d, mask.contains d = true ∧ ¬ shape.contains d = true := by
  unfold matchesShape
  cases mask.mode with
  | and => simp [and_bits_eq_iff]
  | or =>
    have hsome : shape.bits &&& mask.bits ≠ 0 ↔ _ := not_congr and_bits_eq_zero_iff
    simp_all
  | not => simp [and_bits_eq_zero_iff]
  | notAll =>
    have hsome : shape.bits &&& mask.bits ≠ mask.bits ↔ _ := not_congr and_bits_eq_iff
    simp_all

end Bitfield

/-! ## Masks on entities -/

namespace Store

variable {s : Store} {mask : Bitfield} {e : EntityId}

/-- Whether an entity has a component by the definition `d`. -/
def Carries (s : Store) (e : EntityId) (d : DefId) : Prop := (s.component? ⟨e, d⟩).isSome

/-- Whether the components of an entity are as a mask asks: by every definition of
the mask, by one of them, by none, or not by every one; the sentinel asks nothing. -/
def Meets (s : Store) (mask : Bitfield) (e : EntityId) : Prop :=
  mask.all = true ∨
    match mask.mode with
    | .and => ∀ d, mask.contains d = true → s.Carries e d
    | .or => ∃ d, mask.contains d = true ∧ s.Carries e d
    | .not => ∀ d, mask.contains d = true → ¬ s.Carries e d
    | .notAll => ∃ d, mask.contains d = true ∧ ¬ s.Carries e d

/-- The shape of a stored entity has the bits of its components. -/
theorem Aligned.contains_iff (hs : s.Aligned) {shape : Bitfield} (hshape : s.shape? e = some shape)
    (d : DefId) : shape.contains d = true ↔ s.Carries e d := by
  refine Iff.trans ?_ (hs.bit_iff e d)
  constructor
  · exact fun hd => ⟨shape, hshape, hd⟩
  · rintro ⟨shape', hshape', hd⟩
    obtain rfl := Option.some.inj (hshape.symm.trans hshape')
    exact hd

/-- **A mask on a shape is the mask on the components.** -/
theorem Aligned.meets_iff (hs : s.Aligned) {shape : Bitfield} (hshape : s.shape? e = some shape) :
    mask.matchesShape shape = true ↔ s.Meets mask e := by
  rw [Bitfield.matchesShape_iff, Meets]
  simp only [hs.contains_iff hshape]

/-- An entity with a component is stored. -/
theorem Aligned.shape?_of_carries (hs : s.Aligned) {d : DefId} (h : s.Carries e d) :
    ∃ shape, s.shape? e = some shape := by
  obtain ⟨shape, hshape, -⟩ := (hs.bit_iff e d).2 h
  exact ⟨shape, hshape⟩

end Store

/-! ## Filters -/

namespace Filter

/-- What a filter asks of an entity. A leaf asks that the entity meets the mask of
its attribute and that some component by a definition of the mask has a value at the
pointer that passes the comparison. -/
def Holds (s : Store) : Filter Value → EntityId → Prop
  | .and l r, e => l.Holds s e ∧ r.Holds s e
  | .or l r, e => l.Holds s e ∨ r.Holds s e
  | .compare op a operand, e => s.Meets a.mask e ∧ ∃ d c field, a.mask.contains d = true ∧
      s.component? ⟨e, d⟩ = some c ∧ c.pointer? a.pointer = some field ∧
      compareField field op operand = true

/-- The same as it is evaluated, for one entity. -/
def test (s : Store) : Filter Value → EntityId → Bool
  | .and l r, e => l.test s e && r.test s e
  | .or l r, e => l.test s e || r.test s e
  | .compare op a operand, e => s.passes op a operand e

theorem mem_idSet {ids : List EntityId} {e : EntityId} :
    (idSet ids).contains e = true ↔ e ∈ ids := Table.contains_ofList_unit

/-- **A filter looks at one entity at a time**: of any candidates it keeps those
that pass, in their order and as often as they stand there. -/
theorem apply_eq_filter (s : Store) (f : Filter Value) (ids : List EntityId) :
    f.apply s ids = ids.filter (f.test s) := by
  induction f generalizing ids with
  | and l r ihl ihr =>
    rw [apply, ihl]
    have hboth : (ids.filter (l.test s)).filter (r.test s)
        = ids.filter ((and l r).test s) := by
      rw [List.filter_filter]
      exact List.filter_congr fun e _ => Bool.and_comm ..
    -- where nothing passes on the left, the right side is not asked
    cases hleft : ids.filter (l.test s) with
    | nil =>
      rw [hleft] at hboth
      exact hboth
    | cons e rest =>
      rw [hleft] at hboth
      exact (ihr (e :: rest)).trans hboth
  | or l r ihl ihr =>
    rw [apply, ihl, ihr]
    refine List.filter_congr fun e he => ?_
    rw [Bool.eq_iff_iff, mem_idSet]
    simp [test, he]
  | compare op a operand => rfl

variable {s : Store} {e : EntityId}

/-- A comparison reads the shape of an entity and then its components. -/
theorem passes_iff_shape {op : CompareOp} {a : Attribute} {operand : Value} :
    s.passes op a operand e = true ↔ ∃ shape, s.shape? e = some shape ∧
      a.mask.matchesShape shape = true ∧ ∃ d c field, a.mask.contains d = true ∧
      s.component? ⟨e, d⟩ = some c ∧ c.pointer? a.pointer = some field ∧
      compareField field op operand = true := by
  unfold Store.passes
  cases hshape : s.shape? e with
  | none => simp
  | some shape =>
    simp only [Option.some.injEq, exists_eq_left', Bool.and_eq_true, List.any_eq_true]
    refine and_congr_right fun _ => exists_congr fun d => ?_
    rw [Bitfield.mem_toList, Store.fieldBy?]
    cases s.component? ⟨e, d⟩ with
    | none => simp
    | some c => cases hfield : c.pointer? a.pointer <;> simp [hfield]

theorem passes_iff (hs : s.Aligned) {op : CompareOp} {a : Attribute} {operand : Value} :
    s.passes op a operand e = true ↔ (compare op a operand).Holds s e := by
  rw [passes_iff_shape, Holds]
  constructor
  · rintro ⟨shape, hshape, hmatches, hfield⟩
    exact ⟨(hs.meets_iff hshape).1 hmatches, hfield⟩
  · rintro ⟨hmeets, d, c, field, hd, hc, hfield⟩
    -- an entity with a component to pass by is stored
    have hcarries : s.Carries e d := by
      rw [Store.Carries, hc]
      rfl
    obtain ⟨shape, hshape⟩ := hs.shape?_of_carries hcarries
    exact ⟨shape, hshape, (hs.meets_iff hshape).2 hmeets, d, c, field, hd, hc, hfield⟩

/-- **What passes is what the filter asks for.** -/
theorem test_iff (hs : s.Aligned) (f : Filter Value) : f.test s e = true ↔ f.Holds s e := by
  induction f with
  | and l r ihl ihr => rw [test, Bool.and_eq_true, ihl, ihr, Holds]
  | or l r ihl ihr => rw [test, Bool.or_eq_true, ihl, ihr, Holds]
  | compare op a operand => exact passes_iff hs

theorem mem_apply_iff (hs : s.Aligned) (f : Filter Value) {ids : List EntityId} :
    e ∈ f.apply s ids ↔ e ∈ ids ∧ f.Holds s e := by
  rw [apply_eq_filter, List.mem_filter, test_iff hs]

end Filter

end EntityBase
