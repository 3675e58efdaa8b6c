import EntityBase.Bitfield.Packed
import EntityBase.Proofs.Selection.Filter
import Mathlib.Data.Finset.Sort

/-!
# Packed bitfields are finite sets

What a packed bitfield answers is a matter of its members alone, however many zeros
stand at the end of its limbs: the list, the number and the emptiness of the members,
equality, and what it asks of a shape as a mask. Two limbs are equal if they agree on
64 members, so a question that is put limb by limb is one that is put member by member
(`limbs_eq_iff`).

A bitfield that was made from nothing by any operations (`Making`) is the finite set
that the same operations make (`bitfields_are_finite_sets`), and it is packed what
`Bitfield` is at once (`Packed.unpacked`).
-/

namespace EntityBase

namespace Limb

/-- The bits of a limb are counted one by one. -/
theorem toNat_cpop_eq (limb : Limb) :
    limb.cpop.toNat = ((List.range 64).filter limb.has).length := by
  have hcount : ∀ n, limb.cpopNatRec n 0 = ((List.range n).filter limb.getLsbD).length := by
    intro n
    induction n with
    | zero => rfl
    | succ n ih =>
      rw [BitVec.cpopNatRec_succ, BitVec.cpopNatRec_eq, ih, List.range_succ, List.filter_append,
        List.length_append, Nat.zero_add]
      cases hbit : limb.getLsbD n <;> simp [hbit]
  have hhas : (List.range 64).filter limb.has = (List.range 64).filter limb.getLsbD :=
    List.filter_congr fun i hi => limb.has_eq_getLsbD (List.mem_range.1 hi)
  rw [BitVec.toNat_cpop, hcount, hhas]

end Limb

namespace Packed

variable {a b mask shape : Packed} {d : DefId}

/-! ## From limbs to members -/

/-- **Limb by limb is member by member.** -/
theorem limbs_eq_iff {n : Nat} (hend : ∀ w, n ≤ w → a.limb w = b.limb w) :
    (∀ w < n, a.limb w = b.limb w) ↔ ∀ d, a.contains d = b.contains d := by
  constructor
  · intro h d
    have hlimb : a.limb (d / 64) = b.limb (d / 64) := by
      rcases Nat.lt_or_ge (d / 64) n with hlt | hge
      · exact h _ hlt
      · exact hend _ hge
    rw [contains_eq, contains_eq, hlimb]
  · intro h w _
    exact limb_eq_iff.2 fun i _ => h _

theorem isEmpty_iff : b.isEmpty = true ↔ ∀ d, b.contains d = false := by
  have hlimbs : b.isEmpty = true ↔ ∀ w < b.limbs.length, b.limb w = empty.limb w := by
    rw [isEmpty, List.all_eq_true]
    constructor
    · intro h w hw
      have hzero := eq_of_beq (h _ (List.getElem_mem hw))
      rw [limb, List.getD_eq_getElem?_getD, List.getElem?_eq_getElem hw, Option.getD_some, hzero]
      rfl
    · intro h limb hlimb
      obtain ⟨w, hw, rfl⟩ := List.getElem_of_mem hlimb
      have hzero := h w hw
      rw [Packed.limb, List.getD_eq_getElem?_getD, List.getElem?_eq_getElem hw] at hzero
      exact beq_iff_eq.2 hzero
  rw [hlimbs, limbs_eq_iff fun w hw => limb_of_length_le hw]
  exact forall_congr' fun d => by rw [contains_empty]

/-- **Equality is that of mode and members**, whatever the limbs are. -/
theorem same_iff (ha : a.all = false) (hb : b.all = false) :
    a.same b = true ↔ a.mode = b.mode ∧ ∀ d, a.contains d = b.contains d := by
  have hend : ∀ w, max a.limbs.length b.limbs.length ≤ w → a.limb w = b.limb w := by
    intro w hw
    rw [limb_of_length_le (by omega), limb_of_length_le (by omega)]
  rw [← limbs_eq_iff hend, same, ha, hb]
  simp

/-- **A mask asks of a shape** what its mode says of their members. -/
theorem matchesShape_iff : mask.matchesShape shape = true ↔ mask.all = true ∨
    match mask.mode with
    | .and => ∀ d, mask.contains d = true → shape.contains d = true
    | .or => ∃ d, mask.contains d = true ∧ shape.contains d = true
    | .not => ∀ d, mask.contains d = true → ¬ shape.contains d = true
    | .notAll => ∃ d, mask.contains d = true ∧ ¬ shape.contains d = true := by
  -- behind the limbs of the mask there is nothing to be met
  have hend (w : Nat) (hw : mask.limbs.length ≤ w) : (shape.intersect mask).limb w = 0#64 := by
    rw [limb_intersect, limb_of_length_le hw, BitVec.and_zero]
  have hall : (∀ w < mask.limbs.length, shape.limb w &&& mask.limb w = mask.limb w) ↔
      ∀ d, mask.contains d = true → shape.contains d = true := by
    have h := limbs_eq_iff (a := shape.intersect mask) (b := mask) fun w hw =>
      (hend w hw).trans (limb_of_length_le hw).symm
    simp only [limb_intersect, contains_intersect] at h
    rw [h]
    refine forall_congr' fun d => ?_
    cases mask.contains d <;> simp
  have hnone : (∀ w < mask.limbs.length, shape.limb w &&& mask.limb w = 0#64) ↔
      ∀ d, mask.contains d = true → ¬ shape.contains d = true := by
    have h := limbs_eq_iff (a := shape.intersect mask) (b := empty) fun w hw => hend w hw
    simp only [limb_intersect, contains_intersect] at h
    refine h.trans (forall_congr' fun d => ?_)
    cases mask.contains d <;> simp
  unfold matchesShape
  rw [Bool.or_eq_true]
  refine or_congr_right ?_
  cases mask.mode with
  | and => simpa using hall
  | or => simpa using not_congr hnone
  | not => simpa using hnone
  | notAll => simpa using not_congr hall

/-! ## The list of members -/

/-- Whether every bit has an id: as many limbs as there are ids for. -/
def Fits (b : Packed) : Prop := b.limbs.length ≤ 1024

theorem Fits.idAt_eq (hb : b.Fits) {w i : Nat} (hw : w < b.limbs.length) (hi : i < 64) :
    idAt w i = 64 * w + i := by
  have hlimbs : b.limbs.length ≤ 1024 := hb
  have hid : 64 * w + i < 65536 := by omega
  exact Nat.mod_eq_of_lt hid

theorem Fits.mem_toList_iff (hb : b.Fits) : d ∈ b.toList ↔ b.contains d = true := by
  unfold toList
  rw [List.mem_flatMap]
  constructor
  · rintro ⟨⟨limb, w⟩, hlimb, hd⟩
    rw [List.mem_zipIdx_iff_getElem?] at hlimb
    obtain ⟨i, hi, rfl⟩ := List.mem_map.1 hd
    obtain ⟨hi, hhas⟩ := List.mem_filter.1 hi
    have hi : i < 64 := List.mem_range.1 hi
    obtain ⟨hw, -⟩ := List.getElem?_eq_some_iff.1 hlimb
    have hplace : (64 * w + i) / 64 = w := by omega
    have hbit : (64 * w + i) % 64 = i := by omega
    dsimp only at hlimb hhas ⊢
    rw [hb.idAt_eq hw hi, contains, hplace, hlimb, hbit]
    exact hhas
  · intro hd
    unfold contains at hd
    cases hlimb : b.limbs[d / 64]? with
    | none =>
      rw [hlimb] at hd
      cases hd
    | some limb =>
      rw [hlimb] at hd
      have hlt : d % 64 < 64 := Nat.mod_lt d (by decide)
      obtain ⟨hw, -⟩ := List.getElem?_eq_some_iff.1 hlimb
      refine ⟨(limb, d / 64), List.mem_zipIdx_iff_getElem?.2 hlimb, List.mem_map.2 ⟨d % 64, ?_, ?_⟩⟩
      · exact List.mem_filter.2 ⟨List.mem_range.2 hlt, hd⟩
      · exact (hb.idAt_eq hw hlt).trans (Nat.div_add_mod d 64)

theorem Fits.pairwise_toList (hb : b.Fits) : b.toList.Pairwise (· < ·) := by
  have hplaces : b.limbs.zipIdx.Pairwise fun x y => x.2 < y.2 := by
    rw [← List.pairwise_map, List.zipIdx_map_snd]
    exact List.pairwise_lt_range' 1
  have hid {limb : Limb} {w : Nat} (h : (limb, w) ∈ b.limbs.zipIdx) {d : DefId}
      (hd : d ∈ ((List.range 64).filter limb.has).map (idAt w)) :
      ∃ i : Nat, i < 64 ∧ d = 64 * w + i := by
    obtain ⟨i, hi, rfl⟩ := List.mem_map.1 hd
    have hi : i < 64 := List.mem_range.1 (List.mem_filter.1 hi).1
    obtain ⟨hw, -⟩ := List.getElem?_eq_some_iff.1 (List.mem_zipIdx_iff_getElem?.1 h)
    exact ⟨i, hi, hb.idAt_eq hw hi⟩
  unfold toList
  rw [List.pairwise_flatMap]
  refine ⟨fun ⟨limb, w⟩ h => ?_, hplaces.imp_of_mem fun {x y} hx hy hlt d hd e he => ?_⟩
  · obtain ⟨hw, -⟩ := List.getElem?_eq_some_iff.1 (List.mem_zipIdx_iff_getElem?.1 h)
    have hbits : ((List.range 64).filter limb.has).Pairwise (· < ·) :=
      List.pairwise_lt_range.sublist List.filter_sublist
    refine List.pairwise_map.2 (hbits.imp_of_mem fun {i j} hi hj hlt => ?_)
    rw [hb.idAt_eq hw (List.mem_range.1 (List.mem_filter.1 hi).1),
      hb.idAt_eq hw (List.mem_range.1 (List.mem_filter.1 hj).1)]
    exact Nat.add_lt_add_left hlt _
  · obtain ⟨i, hi, rfl⟩ := hid hx hd
    obtain ⟨j, hj, rfl⟩ := hid hy he
    have hfar : 64 * x.2 + i < 64 * y.2 + j := by omega
    exact hfar

/-- **As many bits are counted as members are listed.** -/
theorem size_eq_length (b : Packed) : b.size = b.toList.length := by
  have hlimbs : b.limbs.zipIdx.map (fun x => (((List.range 64).filter x.1.has).map
      (idAt x.2)).length) = b.limbs.map fun limb => limb.cpop.toNat := by
    conv => rhs; rw [← List.zipIdx_map_fst 0 b.limbs, List.map_map]
    refine List.map_congr_left fun x _ => ?_
    rw [List.length_map, Function.comp_apply, Limb.toNat_cpop_eq]
  have hsum : b.size = (b.limbs.map fun limb => limb.cpop.toNat).sum := by
    rw [List.sum_eq_foldl, List.foldl_map]
    rfl
  rw [hsum, toList, List.length_flatMap, hlimbs]

/-! ## The same set at once -/

/-- Limbs as one number. -/
def joined : List Limb → Nat
  | [] => 0
  | limb :: rest => 2 ^ 64 * joined rest + limb.toNat

/-- The bitfield whose members are not spread over limbs. -/
def unpacked (b : Packed) : Bitfield := { bits := joined b.limbs, mode := b.mode, all := b.all }

theorem testBit_joined (limbs : List Limb) (d : Nat) :
    (joined limbs).testBit d = (limbs.getD (d / 64) 0#64).getLsbD (d % 64) := by
  induction limbs generalizing d with
  | nil => simp [joined]
  | cons limb rest ih =>
    rw [joined, Nat.testBit_two_pow_mul_add _ limb.isLt, BitVec.testBit_toNat]
    split
    · rename_i hlt
      rw [Nat.div_eq_of_lt hlt, Nat.mod_eq_of_lt hlt]
      rfl
    · rename_i hge
      have hplace : d / 64 = (d - 64) / 64 + 1 := by omega
      have hbit : d % 64 = (d - 64) % 64 := by omega
      rw [ih, hplace, hbit]
      rfl

@[simp] theorem contains_unpacked (b : Packed) (d : DefId) :
    b.unpacked.contains d = b.contains d := by
  rw [contains_eq, limb, ← testBit_joined]
  rfl

theorem unpacked_eq_iff {c : Bitfield} : b.unpacked = c ↔
    b.mode = c.mode ∧ b.all = c.all ∧ ∀ d, b.contains d = c.contains d := by
  constructor
  · rintro rfl
    exact ⟨rfl, rfl, fun d => (contains_unpacked b d).symm⟩
  · rintro ⟨hmode, hall, hmembers⟩
    exact Bitfield.ext_mem hmode hall fun d => (contains_unpacked b d).trans (hmembers d)

theorem unpacked_insert : (b.insert d).unpacked = b.unpacked.insert d :=
  unpacked_eq_iff.2 ⟨rfl, rfl, fun e => by simp⟩

theorem unpacked_erase : (b.erase d).unpacked = b.unpacked.erase d :=
  unpacked_eq_iff.2 ⟨rfl, rfl, fun e => by simp⟩

theorem unpacked_ofList (ids : List DefId) : (ofList ids).unpacked = Bitfield.ofList ids := by
  have hfold : ∀ (ids : List DefId) (b : Packed),
      (ids.foldl insert b).unpacked = ids.foldl Bitfield.insert b.unpacked := by
    intro ids
    induction ids with
    | nil => intro b; rfl
    | cons d ids ih => intro b; rw [List.foldl_cons, ih, unpacked_insert, List.foldl_cons]
  exact hfold ids empty

theorem unpacked_union : (a.union b).unpacked = a.unpacked.union b.unpacked :=
  unpacked_eq_iff.2 ⟨rfl, rfl, fun d => by simp⟩

theorem unpacked_intersect : (a.intersect b).unpacked = a.unpacked.intersect b.unpacked :=
  unpacked_eq_iff.2 ⟨rfl, rfl, fun d => by simp⟩

theorem unpacked_difference : (a.difference b).unpacked = a.unpacked.difference b.unpacked :=
  unpacked_eq_iff.2 ⟨rfl, rfl, fun d => by simp⟩

/-- **Both list the same.** -/
theorem Fits.toList_unpacked (hb : b.Fits) : b.unpacked.toList = b.toList :=
  b.unpacked.pairwise_toList.eq_of_mem_iff hb.pairwise_toList fun d => by
    rw [Bitfield.mem_toList, hb.mem_toList_iff, contains_unpacked]

theorem isEmpty_unpacked : b.unpacked.isEmpty = b.isEmpty := by
  rw [Bool.eq_iff_iff, isEmpty_iff, ← Bool.not_eq_false, Bitfield.isEmpty_eq_false_iff, not_exists]
  simp only [contains_unpacked, Bool.not_eq_true]

theorem matchesShape_unpacked :
    mask.unpacked.matchesShape shape.unpacked = mask.matchesShape shape := by
  rw [Bool.eq_iff_iff, matchesShape_iff, Bitfield.matchesShape_iff]
  simp only [contains_unpacked]
  rfl

theorem same_unpacked : a.unpacked.same b.unpacked = a.same b := by
  cases hall : a.all || b.all with
  | true =>
    have hall' : (a.unpacked.all || b.unpacked.all) = true := hall
    rw [same, Bitfield.same, if_pos hall, if_pos hall']
    rfl
  | false =>
    obtain ⟨ha, hb⟩ := Bool.or_eq_false_iff.1 hall
    have hbits : a.unpacked.bits = b.unpacked.bits ↔ ∀ d, a.contains d = b.contains d := by
      simp only [← contains_unpacked, Bitfield.contains]
      exact ⟨fun h d => by rw [h], Nat.eq_of_testBit_eq⟩
    have hall' : (a.unpacked.all || b.unpacked.all) = false := hall
    rw [Bool.eq_iff_iff, same_iff ha hb, Bitfield.same, hall', ← hbits]
    simp [unpacked]

end Packed

/-! ## Bitfields that operations make -/

/-- An id that a definition can have. -/
abbrev SmallId := Fin (maxDefId + 1)

/-- How a bitfield without sentinel comes about. -/
inductive Making where
  | empty
  | ofList (ids : List SmallId)
  | insert (b : Making) (d : SmallId)
  | erase (b : Making) (d : SmallId)
  | withMode (b : Making) (mode : MaskMode)
  | union (a b : Making)
  | intersect (a b : Making)
  | difference (a b : Making)

namespace Making

/-- What is made, limb by limb. -/
def packed : Making → Packed
  | empty => .empty
  | ofList ids => .ofList (ids.map Fin.val)
  | insert b d => b.packed.insert d
  | erase b d => b.packed.erase d
  | withMode b mode => { b.packed with mode }
  | union a b => a.packed.union b.packed
  | intersect a b => a.packed.intersect b.packed
  | difference a b => a.packed.difference b.packed

/-- What is made, at once. -/
def bitfield : Making → Bitfield
  | empty => .empty
  | ofList ids => .ofList (ids.map Fin.val)
  | insert b d => b.bitfield.insert d
  | erase b d => b.bitfield.erase d
  | withMode b mode => { b.bitfield with mode }
  | union a b => a.bitfield.union b.bitfield
  | intersect a b => a.bitfield.intersect b.bitfield
  | difference a b => a.bitfield.difference b.bitfield

/-- The members, as the operations on finite sets make them. -/
def members : Making → Finset DefId
  | empty => ∅
  | ofList ids => (ids.map Fin.val).toFinset
  | insert b d => Insert.insert d.val b.members
  | erase b d => b.members.erase d.val
  | withMode b _ => b.members
  | union a b => a.members ∪ b.members
  | intersect a b => a.members ∩ b.members
  | difference a b => a.members \ b.members

/-- The mode: of two operands, that of the left one. -/
def mode : Making → MaskMode
  | empty | ofList _ => .and
  | insert b _ | erase b _ => b.mode
  | withMode _ mode => mode
  | union a _ | intersect a _ | difference a _ => a.mode

variable {m n : Making}

theorem contains_packed_ofList (ids : List DefId) (d : DefId) :
    (Packed.ofList ids).contains d = decide (d ∈ ids) := by
  have hfold : ∀ (ids : List DefId) (b : Packed),
      (ids.foldl Packed.insert b).contains d = (b.contains d || decide (d ∈ ids)) := by
    intro ids
    induction ids with
    | nil => intro b; simp
    | cons e ids ih =>
      intro b
      rw [List.foldl_cons, ih, Packed.contains_insert, Bool.or_assoc]
      simp [eq_comm]
  exact (hfold ids .empty).trans (Bool.false_or _)

/-- **Membership is that of the finite set.** -/
theorem contains_packed (m : Making) (d : DefId) :
    m.packed.contains d = true ↔ d ∈ m.members := by
  induction m with
  | empty => simp [packed, members]
  | ofList ids => simp [packed, members, contains_packed_ofList]
  | insert b e ih =>
    rw [packed, members, Packed.contains_insert, Bool.or_eq_true, ih, decide_eq_true_iff,
      Finset.mem_insert, or_comm, eq_comm]
  | erase b e ih =>
    rw [packed, members, Packed.contains_erase, Bool.and_eq_true, ih, decide_eq_true_iff,
      Finset.mem_erase, and_comm, ne_comm]
  | withMode b mode ih => exact ih
  | union a b iha ihb => simp [packed, members, iha, ihb]
  | intersect a b iha ihb => simp [packed, members, iha, ihb]
  | difference a b iha ihb => simp [packed, members, iha, ← ihb]

theorem mode_packed (m : Making) : m.packed.mode = m.mode := by
  induction m with
  | ofList ids =>
    exact List.foldlRecOn (motive := fun b : Packed => b.mode = .and) _ _ rfl fun _ hb _ _ => hb
  | insert b d ih => exact ih
  | erase b d ih => exact ih
  | union a b iha _ => exact iha
  | intersect a b iha _ => exact iha
  | difference a b iha _ => exact iha
  | _ => rfl

theorem all_packed (m : Making) : m.packed.all = false := by
  induction m with
  | ofList ids =>
    exact List.foldlRecOn (motive := fun b : Packed => b.all = false) _ _ rfl fun _ hb _ _ => hb
  | insert b d ih => exact ih
  | erase b d ih => exact ih
  | withMode b mode ih => exact ih
  | union a b iha ihb =>
    change (a.packed.all || b.packed.all) = false
    rw [iha, ihb]
    rfl
  | _ => rfl

/-- The ids that there are have room. -/
theorem fits_packed (m : Making) : m.packed.Fits := by
  have hinsert {b : Packed} (hb : b.Fits) (d : SmallId) : (b.insert d).Fits := by
    have hd : d.val < 65536 := d.isLt
    have hlimbs : b.limbs.length ≤ 1024 := hb
    unfold Packed.Fits Packed.insert
    rw [List.length_modify, List.length_append, List.length_replicate]
    omega
  have hzipWith {a b : Packed} (f : Limb → Limb → Limb) (ha : a.Fits) (hb : b.Fits) :
      (Packed.zipWith f a b).Fits := by
    refine (Packed.length_trim_le _).trans ?_
    rw [List.length_map, List.length_range]
    exact max_le ha hb
  induction m with
  | empty => exact Nat.zero_le _
  | ofList ids =>
    refine List.foldlRecOn (motive := Packed.Fits) _ _ (Nat.zero_le _) fun b hb d hd => ?_
    obtain ⟨d, -, rfl⟩ := List.mem_map.1 hd
    exact hinsert hb d
  | insert b d ih => exact hinsert ih d
  | erase b d ih =>
    refine (Packed.length_trim_le _).trans ?_
    rw [List.length_modify]
    exact ih
  | withMode b mode ih => exact ih
  | union a b iha ihb => exact hzipWith _ iha ihb
  | intersect a b iha ihb => exact hzipWith _ iha ihb
  | difference a b iha ihb => exact hzipWith _ iha ihb

theorem unpacked_packed (m : Making) : m.packed.unpacked = m.bitfield := by
  induction m with
  | empty => rfl
  | ofList ids => exact Packed.unpacked_ofList _
  | insert b d ih => rw [packed, Packed.unpacked_insert, ih, bitfield]
  | erase b d ih => rw [packed, Packed.unpacked_erase, ih, bitfield]
  | withMode b mode ih => rw [bitfield, ← ih]; rfl
  | union a b iha ihb => rw [packed, Packed.unpacked_union, iha, ihb, bitfield]
  | intersect a b iha ihb => rw [packed, Packed.unpacked_intersect, iha, ihb, bitfield]
  | difference a b iha ihb => rw [packed, Packed.unpacked_difference, iha, ihb, bitfield]

/-- **Equal bitfields** have the same mode and the same members. -/
theorem same_packed_iff :
    m.packed.same n.packed = true ↔ m.mode = n.mode ∧ m.members = n.members := by
  rw [Packed.same_iff m.all_packed n.all_packed, mode_packed, mode_packed, Finset.ext_iff]
  refine and_congr_right fun _ => forall_congr' fun d => ?_
  rw [← contains_packed, ← contains_packed, Bool.eq_iff_iff]

end Making

/-- What a mask asks of a shape, by the members of both: a superset, an overlap, no
overlap, or no superset. -/
def MaskMode.Asks (mode : MaskMode) (mask shape : Finset DefId) : Prop :=
  match mode with
  | .and => mask ⊆ shape
  | .or => (mask ∩ shape).Nonempty
  | .not => Disjoint mask shape
  | .notAll => ¬ mask ⊆ shape

theorem Making.matchesShape_packed_iff {m n : Making} :
    m.packed.matchesShape n.packed = true ↔ m.mode.Asks m.members n.members := by
  have hall : ¬ m.packed.all = true := by
    rw [all_packed]
    exact Bool.false_ne_true
  rw [Packed.matchesShape_iff, or_iff_right hall, mode_packed]
  simp only [contains_packed, MaskMode.Asks]
  cases m.mode with
  | and => exact Iff.rfl
  | or => simp only [Finset.Nonempty, Finset.mem_inter]
  | not => exact Finset.disjoint_left.symm
  | notAll => exact Finset.not_subset.symm

/-- What a bitfield answers about itself if it is a finite set: membership, the members
once each and ascending, their number, and whether there are none. -/
structure AnswersAs (members : Finset DefId) (contains : DefId → Bool) (toList : List DefId)
    (size : Nat) (isEmpty : Bool) : Prop where
  contains_iff : ∀ d, contains d = true ↔ d ∈ members
  toList_eq : toList = members.sort (· ≤ ·)
  size_eq : size = members.card
  isEmpty_iff : isEmpty = true ↔ members = ∅

theorem Making.answers_packed (m : Making) :
    AnswersAs m.members m.packed.contains m.packed.toList m.packed.size m.packed.isEmpty := by
  have hlist : m.packed.toList = m.members.sort (· ≤ ·) := by
    refine m.fits_packed.pairwise_toList.eq_of_mem_iff m.members.sortedLT_sort.pairwise fun d => ?_
    rw [m.fits_packed.mem_toList_iff, contains_packed, Finset.mem_sort]
  refine ⟨m.contains_packed, hlist, ?_, ?_⟩
  · rw [Packed.size_eq_length, hlist, Finset.length_sort]
  · rw [Packed.isEmpty_iff, Finset.eq_empty_iff_forall_notMem]
    simp only [← contains_packed, Bool.not_eq_true]

/-- **A bitfield is a finite set of definition ids.** Take any two bitfields that came
about without a sentinel, in whatever way: from nothing or from a list of ids, by
inserting and erasing ids and setting modes, as unions, intersections and differences.
The members of such a bitfield are those that the same operations on finite sets make,
and its mode is that of its left operand. Packed into limbs, of whatever number,

* it answers as that finite set does,
* it is equal to another one exactly if mode and members are the same,
* as a mask it asks of the members of a shape what its mode says,

and the bitfield that is not packed has the same members and gives the same answers. -/
theorem bitfields_are_finite_sets (m n : Making) :
    AnswersAs m.members m.packed.contains m.packed.toList m.packed.size m.packed.isEmpty ∧
    m.packed.mode = m.mode ∧
    (m.packed.same n.packed = true ↔ m.mode = n.mode ∧ m.members = n.members) ∧
    (m.packed.matchesShape n.packed = true ↔ m.mode.Asks m.members n.members) ∧
    m.packed.unpacked = m.bitfield ∧
    AnswersAs m.members m.bitfield.contains m.bitfield.toList m.bitfield.size m.bitfield.isEmpty ∧
    m.bitfield.same n.bitfield = m.packed.same n.packed ∧
    m.bitfield.matchesShape n.bitfield = m.packed.matchesShape n.packed := by
  have hm := m.answers_packed
  have hanswers : AnswersAs m.members m.bitfield.contains m.bitfield.toList m.bitfield.size
      m.bitfield.isEmpty := by
    have hlist : m.bitfield.toList = m.packed.toList := by
      rw [← m.unpacked_packed, m.fits_packed.toList_unpacked]
    refine ⟨fun d => ?_, hlist.trans hm.toList_eq, ?_, ?_⟩
    · rw [← m.unpacked_packed, Packed.contains_unpacked, hm.contains_iff]
    · rw [Bitfield.size, hlist, ← Packed.size_eq_length, hm.size_eq]
    · rw [← m.unpacked_packed, Packed.isEmpty_unpacked, hm.isEmpty_iff]
  refine ⟨hm, m.mode_packed, Making.same_packed_iff, Making.matchesShape_packed_iff,
    m.unpacked_packed, hanswers, ?_, ?_⟩
  · rw [← m.unpacked_packed, ← n.unpacked_packed, Packed.same_unpacked]
  · rw [← m.unpacked_packed, ← n.unpacked_packed, Packed.matchesShape_unpacked]

end EntityBase
