import EntityBase.Proofs.Bitfield.Sentinel
import EntityBase.Proofs.Machine.Integers

/-!
# Set algebra with the sentinel, in programs

The words `union`, `intersect` and `diff` do to two bitfields what the operations on
their limbs do (`runName_bitfields`). So what holds of the sentinel there holds in
programs too: it is the set of all ids for a union, and for the other two words the
empty set (`sentinel_is_universal_in_unions`).
-/

namespace EntityBase

open Value

namespace SetOp

/-- The operation on bitfields, limb by limb. -/
def onPacked (op : SetOp) (a b : Packed) : Packed :=
  match op with
  | .union => a.union b
  | .intersect => a.intersect b
  | .diff => a.difference b

theorem onBitfields_unpacked (op : SetOp) (a b : Packed) :
    op.onBitfields a.unpacked b.unpacked = (op.onPacked a b).unpacked := by
  cases op with
  | union => exact Packed.unpacked_union.symm
  | intersect => exact Packed.unpacked_intersect.symm
  | diff => exact Packed.unpacked_difference.symm

end SetOp

namespace Machine

variable {env : Env} {s : State} {rest : List Value} {runList : List Value → Run Flow}
  {a b : Packed}

/-- **The set operations** on two bitfields, of which the top one is the right operand. -/
theorem runName_bitfields (op : SetOp) (hname : Unhidden op.text env s)
    (hitems : s.frame.items = .bitfield b.unpacked :: .bitfield a.unpacked :: rest) :
    runName runList op.text env s
      = (.ok .next, s.withItems (.bitfield (op.onPacked a b).unpacked :: rest)) := by
  rw [runName_combine op hname hitems rfl, SetOp.onBitfields_unpacked]

/-- **The sentinel is the set of all ids in unions, and the empty set elsewhere.** A union
with it on either side is the sentinel and matches every entity; an intersection with it
has no member, and a difference from it has all that the left operand has. So these two
are what the set of all ids would make them only for the empty set, and only for what has
no members. The words do the same to bitfields on the stack. -/
theorem sentinel_is_universal_in_unions (x : Packed) :
    (x.UnionLaw ∧ (x.IntersectLaw ↔ x.all = false ∧ x.isEmpty = true) ∧
      (x.DifferenceLaw ↔ x.isEmpty = true)) ∧
    (∀ shape : Packed, (x.union .universal).matchesShape shape = true ∧
      (Packed.universal.union x).matchesShape shape = true) ∧
    (∀ d : DefId, (x.intersect .universal).contains d = false ∧
      (Packed.universal.intersect x).contains d = false ∧
      (x.difference .universal).contains d = x.contains d) ∧
    ∀ (op : SetOp) (a b : Packed) (runList : List Value → Run Flow) (env : Env) (s : State)
      (rest : List Value), Unhidden op.text env s →
      s.frame.items = .bitfield b.unpacked :: .bitfield a.unpacked :: rest →
      runName runList op.text env s
        = (.ok .next, s.withItems (.bitfield (op.onPacked a b).unpacked :: rest)) := by
  refine ⟨⟨x.unionLaw, Packed.intersectLaw_iff, Packed.differenceLaw_iff⟩,
    fun shape => ⟨?_, ?_⟩, fun d => ⟨?_, ?_, ?_⟩, ?_⟩
  · exact Packed.matchesShape_of_all (Bool.or_true x.all) shape
  · exact Packed.matchesShape_of_all (Bool.true_or x.all) shape
  · exact x.contains_intersect_universal d
  · exact x.contains_universal_intersect d
  · exact x.contains_difference_universal d
  · exact fun op _ _ _ _ _ _ => runName_bitfields op

/-- What one definition and the sentinel have in common is nothing, to the word too. -/
theorem sentinel_is_universal_in_unions_intersect :
    let x := Packed.ofList [1]
    let env : Env := { limits := {}, now := default }
    let s : State :=
      { frame := { items := [.bitfield Packed.universal.unpacked, .bitfield x.unpacked] } }
    Unhidden "intersect" env s ∧
      runName (fun _ => pure .next) "intersect" env s = (.ok .next, s.withItems [.bitfield {}]) := by
  intro x env s
  have hbare : Unhidden "intersect" env s := unhidden_of_bare rfl rfl
  have hnone : (SetOp.intersect.onPacked x .universal).unpacked = {} := by decide +kernel
  obtain ⟨-, -, -, hwords⟩ := sentinel_is_universal_in_unions x
  have hrun := hwords .intersect x .universal (fun _ => pure .next) env s [] hbare rfl
  rw [hnone] at hrun
  exact ⟨hbare, hrun⟩

/-- **It is not the set of all ids**: the set of id 1 loses its member where it meets the
sentinel on either side, the sentinel does not meet itself, and id 1 stays where the
sentinel is taken away. -/
theorem sentinel_is_not_universal :
    let x := Packed.ofList [1]
    x.contains 1 = true ∧ (x.intersect .universal).contains 1 = false ∧
      (Packed.universal.intersect x).contains 1 = false ∧
      (Packed.universal.intersect .universal).all = false ∧
      (x.difference .universal).contains 1 = true := by
  decide +kernel

end Machine

end EntityBase
