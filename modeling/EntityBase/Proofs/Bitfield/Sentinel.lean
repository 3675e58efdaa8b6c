import EntityBase.Proofs.Bitfield.Packed

/-!
# The sentinel in set algebra

As a mask the sentinel matches every entity, so in set algebra it is to stand for the
set of all ids. A union with it is the sentinel. An intersection and a difference do not
look at it: they take it for the empty set that stands beside it, and what they give is
never a sentinel. So an intersection with the sentinel is right for the empty set alone
(`intersectLaw_iff`), and a difference from it for what has no members
(`differenceLaw_iff`).
-/

namespace EntityBase.Packed

variable {x r : Packed} {d : DefId}

/-! ## The laws of a set of all ids -/

/-- What a bitfield has in common with the set of all ids: its own members, and
everything if it is the sentinel. -/
def CommonWithAll (x r : Packed) : Prop :=
  r.all = x.all ∧ (x.all = false → ∀ d, r.contains d = x.contains d)

/-- Joined with the set of all ids, a bitfield is that set. -/
structure UnionLaw (x : Packed) : Prop where
  right : (x.union universal).same universal = true
  left : (universal.union x).same universal = true

/-- Met with the set of all ids, a bitfield is left as it is. -/
structure IntersectLaw (x : Packed) : Prop where
  right : CommonWithAll x (x.intersect universal)
  left : CommonWithAll x (universal.intersect x)

/-- Without the set of all ids, nothing is left of a bitfield. -/
structure DifferenceLaw (x : Packed) : Prop where
  sentinel : (x.difference universal).all = false
  members : (x.difference universal).isEmpty = true

/-! ## What the operations make of the sentinel -/

@[simp] theorem contains_universal (d : DefId) : universal.contains d = false := rfl

theorem same_universal_iff : x.same universal = true ↔ x.all = true := by
  have hall : (x.all || universal.all) = true := Bool.or_true _
  rw [same, if_pos hall, beq_iff_eq]
  rfl

/-- **A union with the sentinel is the sentinel.** -/
theorem unionLaw (x : Packed) : UnionLaw x where
  right := same_universal_iff.2 (Bool.or_true x.all)
  left := same_universal_iff.2 (Bool.true_or x.all)

/-- The sentinel has nothing in common with a bitfield. -/
theorem contains_intersect_universal (x : Packed) (d : DefId) :
    (x.intersect universal).contains d = false := by
  rw [contains_intersect, contains_universal, Bool.and_false]

theorem contains_universal_intersect (x : Packed) (d : DefId) :
    (universal.intersect x).contains d = false := by
  rw [contains_intersect, contains_universal, Bool.false_and]

/-- The sentinel takes nothing away. -/
theorem contains_difference_universal (x : Packed) (d : DefId) :
    (x.difference universal).contains d = x.contains d := by
  rw [contains_difference, contains_universal, Bool.not_false, Bool.and_true]

/-- **An intersection with the sentinel** is right for the empty set alone. -/
theorem intersectLaw_iff : IntersectLaw x ↔ x.all = false ∧ x.isEmpty = true := by
  rw [isEmpty_iff]
  constructor
  · rintro ⟨⟨hall, hmembers⟩, -⟩
    have hnone : x.all = false := hall.symm
    exact ⟨hnone, fun d => (hmembers hnone d).symm.trans (contains_intersect_universal x d)⟩
  · rintro ⟨hnone, hempty⟩
    exact {
      right := ⟨hnone.symm, fun _ d => (contains_intersect_universal x d).trans (hempty d).symm⟩
      left := ⟨hnone.symm, fun _ d => (contains_universal_intersect x d).trans (hempty d).symm⟩ }

/-- **A difference from the sentinel** is right for what has no members. -/
theorem differenceLaw_iff : DifferenceLaw x ↔ x.isEmpty = true := by
  have hempty : (x.difference universal).isEmpty = true ↔ x.isEmpty = true := by
    rw [isEmpty_iff, isEmpty_iff]
    simp only [contains_difference_universal]
  exact ⟨fun h => hempty.1 h.members, fun h => ⟨rfl, hempty.2 h⟩⟩

/-- A union with the sentinel matches every entity, as the sentinel does. -/
theorem matchesShape_of_all (h : x.all = true) (shape : Packed) : x.matchesShape shape = true := by
  rw [matchesShape, h, Bool.true_or]

end EntityBase.Packed
