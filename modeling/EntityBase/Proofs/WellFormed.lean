import EntityBase.Component
import EntityBase.Proofs.Table

/-!
# Well-formed data — what a host can hand over

Stored data come from a host whose data types are narrower than the ones
here. A number is never the result of no number and never infinite, an
object lists its fields in key order, and an entity id has 32 bits.
`WellFormed` says so for values, components and schemas.

On well-formed data the comparison of contents is reflexive
(`Component.sameContent_self`), which it is not on the double that results
from no number.
-/

namespace EntityBase

open Float.Model UnpackedFloat in
/-- The double that results from no number has one representation, and that
one is not finite. -/
theorem Binary64.unpack_ne_notANumber {x : Float} (h : isFinite x = true) :
    x.toModel.unpack ≠ .notANumber := by
  intro hnan
  unfold Float.Model.unpack UnpackedFloat.unpack at hnan
  dsimp only at hnan
  by_cases hexponent : @unpackExponent .binary64 x.toModel.toBits.toBitVec = -1#_
  · rw [if_pos hexponent] at hnan
    by_cases hmantissa : @unpackMantissa .binary64 x.toModel.toBits.toBitVec = 0#_
    · rw [if_pos hmantissa] at hnan
      cases hnan
    -- the only branch that results in no number, and its bits are known
    · have hbits := x.toModel.valid.eq_packedNaN hexponent hmantissa
      have hx : x.toBits = 0x7FF8000000000000 := by
        have hmodel : x.toModel.toBits.toBitVec = (0x7FF8000000000000 : UInt64).toBitVec := hbits
        exact UInt64.toBitVec_inj.1 hmodel
      unfold isFinite magnitude at h
      rw [hx] at h
      revert h
      decide
  · rw [if_neg hexponent] at hnan
    by_cases hzero : @unpackExponent .binary64 x.toModel.toBits.toBitVec = 0#_
    · rw [if_pos hzero] at hnan
      by_cases hmantissa : @unpackMantissa .binary64 x.toModel.toBits.toBitVec = 0#_
      · rw [dif_pos hmantissa] at hnan
        cases hnan
      · rw [dif_neg hmantissa] at hnan
        cases hnan
    · rw [if_neg hzero] at hnan
      cases hnan

/-- A finite double equals itself. -/
theorem Binary64.beq_self {x : Float} (h : isFinite x = true) : (x == x) = true := by
  have hne := unpack_ne_notANumber h
  have hunpacked : x.toModel.unpack.beq x.toModel.unpack = true := by
    unfold Float.Model.UnpackedFloat.beq Float.Model.UnpackedFloat.compare
    generalize x.toModel.unpack = u at hne
    rcases u with (_ | _) | _ | _ | ⟨_ | _, m, e, hm⟩
    · rfl
    · rfl
    · exact absurd rfl hne
    · rfl
    · dsimp only
      simp [Std.ReflCmp.compare_self]
    · dsimp only
      simp [Std.ReflCmp.compare_self]
  exact hunpacked

namespace Json

mutual

/-- Doubles are finite, and the fields of objects stand in key order. -/
def WellFormed : Json → Prop
  | .float x => Binary64.isFinite x = true
  | .array items => WellFormedItems items
  | .object fields => Entries.Sorted fields ∧ WellFormedFields fields
  | _ => True

/-- Well-formed item by item. -/
def WellFormedItems : List Json → Prop
  | [] => True
  | item :: rest => WellFormed item ∧ WellFormedItems rest

/-- Well-formed field by field. -/
def WellFormedFields : List (String × Json) → Prop
  | [] => True
  | (_, value) :: rest => WellFormed value ∧ WellFormedFields rest

end

theorem wellFormedFields_iff {fields : List (String × Json)} :
    WellFormedFields fields ↔ ∀ e ∈ fields, e.2.WellFormed := by
  induction fields with
  | nil => simp [WellFormedFields]
  | cons e rest ih =>
    obtain ⟨key, value⟩ := e
    simp [WellFormedFields, ih]

mutual

/-- A well-formed value is the same as itself. -/
theorem same_self : (value : Json) → value.WellFormed → value.same value = true
  | .null, _ => rfl
  | .bool b, _ => by simp [same]
  | .int n, _ => by simp [same]
  | .float _, h => Binary64.beq_self h
  | .string s, _ => by simp [same]
  | .array items, h => sameItems_self items h
  | .object fields, h => sameFields_self fields h.2

theorem sameItems_self : (items : List Json) → WellFormedItems items → sameItems items items = true
  | [], _ => rfl
  | item :: rest, h => by
    rw [sameItems, same_self item h.1, sameItems_self rest h.2, Bool.and_true]

theorem sameFields_self : (fields : List (String × Json)) → WellFormedFields fields →
    sameFields fields fields = true
  | [], _ => rfl
  | (key, value) :: rest, h => by
    rw [sameFields, same_self value h.1, sameFields_self rest h.2, beq_self_eq_true]
    rfl

end

end Json

/-- Well-formed fields of an owner whose id can be given away. -/
structure Component.WellFormed (c : Component) : Prop where
  owner : c.entity ≤ maxEntityId
  fields : Json.WellFormedFields c.attributes.entries

/-- A well-formed component has the content of itself. -/
theorem Component.sameContent_self {c : Component} (h : c.WellFormed) :
    c.sameContent c = true := by
  unfold sameContent
  rw [Json.sameFields_self _ h.fields, beq_self_eq_true]
  rfl

/-- Every default is well-formed. -/
def Schema.WellFormed (s : Schema) : Prop :=
  ∀ p ∈ s.properties, ∀ value, p.default = some value → value.WellFormed

end EntityBase
