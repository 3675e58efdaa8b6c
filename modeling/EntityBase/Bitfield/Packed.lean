import EntityBase.Bitfield

/-!
# Packed bitfields — sets in words of 64 bits

In memory the members of a bitfield are spread over words of 64 bits, here
**limbs**: id `d` is bit `d % 64` of the limb `d / 64`. Behind the last
limb there are no members. So one set can be packed in many ways, with more
or fewer zeros at the end; what takes members away cuts such zeros off.

`Packed` has the operations of `Bitfield`, limb by limb. The lemmas here
say what each of them does to membership (`contains`) and to the limbs.
-/

namespace EntityBase

/-- Sixty-four ids in a row, a bit for each. -/
abbrev Limb := BitVec 64

namespace Limb

/-- The limb with one bit. -/
def bit (i : Nat) : Limb := 1#64 <<< i

/-- Whether a bit is set. -/
def has (limb : Limb) (i : Nat) : Bool := limb &&& bit i != 0#64

theorem getLsbD_bit {i j : Nat} (hi : i < 64) : (bit i).getLsbD j = decide (i = j) := by
  rw [bit, ← BitVec.twoPow_eq, BitVec.getLsbD_twoPow, decide_eq_true hi, Bool.true_and]

theorem has_eq_getLsbD (limb : Limb) {i : Nat} (hi : i < 64) : limb.has i = limb.getLsbD i := by
  have hand : limb &&& bit i = if limb.getLsbD i then bit i else 0#64 := by
    rw [bit, ← BitVec.twoPow_eq, BitVec.and_twoPow]
  have hbit : bit i ≠ 0#64 := by
    intro hzero
    have hset := getLsbD_bit (j := i) hi
    rw [hzero] at hset
    simp at hset
  rw [has, hand]
  cases limb.getLsbD i with
  | true => simpa using hbit
  | false => rfl

end Limb

/-- A set of definition ids in limbs, the lowest ids first, with the mode in
which it is read as a mask. -/
structure Packed where
  limbs : List Limb := []
  mode : MaskMode := .and
  /-- the sentinel: as a mask, match every entity -/
  all : Bool := false
deriving DecidableEq, Repr, Inhabited

namespace Packed

/-- The empty set. -/
def empty : Packed := {}

/-- The sentinel that matches every entity. -/
def universal : Packed := { all := true }

/-- The limb at a place; behind the last one there are zeros. -/
def limb (b : Packed) (w : Nat) : Limb := b.limbs.getD w 0#64

/-- Limbs without the zeros at their end. -/
def trim (limbs : List Limb) : List Limb := (limbs.reverse.dropWhile (· == 0#64)).reverse

/-- Whether `d` belongs to the set. -/
def contains (b : Packed) (d : DefId) : Bool :=
  match b.limbs[d / 64]? with
  | some limb => limb.has (d % 64)
  | none => false

/-- The set with `d`. The limbs grow as far as it takes. -/
def insert (b : Packed) (d : DefId) : Packed :=
  let grown := b.limbs ++ List.replicate (d / 64 + 1 - b.limbs.length) 0#64
  { b with limbs := grown.modify (d / 64) (· ||| Limb.bit (d % 64)) }

/-- The set without `d`, and without zeros at its end. -/
def erase (b : Packed) (d : DefId) : Packed :=
  { b with limbs := trim (b.limbs.modify (d / 64) (· &&& ~~~Limb.bit (d % 64))) }

/-- The set of the listed ids. -/
def ofList (ids : List DefId) : Packed := ids.foldl insert empty

/-- The id of a bit, brought into the range of ids. -/
def idAt (w i : Nat) : DefId := (64 * w + i) % (maxDefId + 1)

/-- The members, limb by limb and bit by bit. -/
def toList (b : Packed) : List DefId :=
  b.limbs.zipIdx.flatMap fun (limb, w) => ((List.range 64).filter limb.has).map (idAt w)

/-- The number of bits that are set. -/
def size (b : Packed) : Nat := b.limbs.foldl (fun n limb => n + limb.cpop.toNat) 0

/-- Whether there is no member. -/
def isEmpty (b : Packed) : Bool := b.limbs.all (· == 0#64)

/-- Two sets joined limb by limb, read as the left operand is. -/
def zipWith (f : Limb → Limb → Limb) (a b : Packed) : Packed :=
  { limbs := trim <| (List.range (max a.limbs.length b.limbs.length)).map
      fun w => f (a.limb w) (b.limb w)
    mode := a.mode }

/-- The members of either; the only operation that keeps a sentinel. -/
def union (a b : Packed) : Packed := { zipWith (· ||| ·) a b with all := a.all || b.all }

/-- The members of both. -/
def intersect (a b : Packed) : Packed := zipWith (· &&& ·) a b

/-- The members of the left operand alone. -/
def difference (a b : Packed) : Packed := zipWith (fun x y => x &&& ~~~y) a b

/-- Whether an entity of the given shape meets the mask. Only the limbs of
the mask are looked at. -/
def matchesShape (mask shape : Packed) : Bool :=
  mask.all ||
    let places := List.range mask.limbs.length
    match mask.mode with
    | .and => places.all fun w => shape.limb w &&& mask.limb w == mask.limb w
    | .or => places.any fun w => shape.limb w &&& mask.limb w != 0#64
    | .not => places.all fun w => shape.limb w &&& mask.limb w == 0#64
    | .notAll => places.any fun w => shape.limb w &&& mask.limb w != mask.limb w

/-- Equality as the query language sees it: a sentinel equals sentinels
only, and zeros at the end make no difference. -/
def same (a b : Packed) : Bool :=
  if a.all || b.all then a.all == b.all
  else
    a.mode == b.mode &&
      (List.range (max a.limbs.length b.limbs.length)).all fun w => a.limb w == b.limb w

/-- The display: mode and members, `bf(or 1,5)`. -/
def text (b : Packed) : String :=
  if b.all then "bf(all)"
  else "bf(" ++ b.mode.text ++ " " ++ String.intercalate "," (b.toList.map toString) ++ ")"

/-! ## Limbs -/

variable {a b : Packed} {d e : DefId}

theorem limb_of_length_le {w : Nat} (h : b.limbs.length ≤ w) : b.limb w = 0#64 := by
  rw [limb, List.getD_eq_getElem?_getD, List.getElem?_eq_none h, Option.getD_none]

/-- What was cut off is zeros. -/
theorem exists_eq_trim_append (limbs : List Limb) :
    ∃ zeros, limbs = trim limbs ++ zeros ∧ ∀ z ∈ zeros, z = 0#64 := by
  refine ⟨(limbs.reverse.takeWhile (· == 0#64)).reverse, ?_, fun z hz => ?_⟩
  · rw [trim, ← List.reverse_append, List.takeWhile_append_dropWhile, List.reverse_reverse]
  · have hzero := List.all_takeWhile (p := (· == 0#64)) (l := limbs.reverse)
    exact eq_of_beq (List.all_eq_true.1 hzero z (List.mem_reverse.1 hz))

@[simp] theorem getD_trim (limbs : List Limb) (w : Nat) :
    (trim limbs).getD w 0#64 = limbs.getD w 0#64 := by
  obtain ⟨zeros, hlimbs, hzeros⟩ := exists_eq_trim_append limbs
  rw [List.getD_eq_getElem?_getD, List.getD_eq_getElem?_getD]
  conv => rhs; rw [hlimbs]
  rcases Nat.lt_or_ge w (trim limbs).length with hlt | hge
  · rw [List.getElem?_append_left hlt]
  · rw [List.getElem?_append_right hge, List.getElem?_eq_none hge]
    cases hz : zeros[w - (trim limbs).length]? with
    | none => rfl
    | some z => exact (hzeros z (List.mem_of_getElem? hz)).symm

theorem length_trim_le (limbs : List Limb) : (trim limbs).length ≤ limbs.length := by
  obtain ⟨zeros, hlimbs, -⟩ := exists_eq_trim_append limbs
  have hlength := congrArg List.length hlimbs
  rw [List.length_append] at hlength
  omega

@[simp] theorem limb_insert (b : Packed) (d : DefId) (w : Nat) :
    (b.insert d).limb w = if d / 64 = w then b.limb w ||| Limb.bit (d % 64) else b.limb w := by
  have hgrown (w : Nat) :
      (b.limbs ++ List.replicate (d / 64 + 1 - b.limbs.length) 0#64)[w]?.getD 0#64 = b.limb w := by
    rw [limb, List.getD_eq_getElem?_getD]
    rcases Nat.lt_or_ge w b.limbs.length with hlt | hge
    · rw [List.getElem?_append_left hlt]
    · rw [List.getElem?_append_right hge, List.getElem?_eq_none hge, List.getElem?_replicate]
      split <;> rfl
  rw [insert, limb, List.getD_eq_getElem?_getD, List.getElem?_modify]
  split
  · rename_i hw
    -- the place was made where it was missing
    have hplace : w < (b.limbs ++ List.replicate (d / 64 + 1 - b.limbs.length) 0#64).length := by
      rw [List.length_append, List.length_replicate]
      omega
    rw [← hgrown w, List.getElem?_eq_getElem hplace]
    rfl
  · rw [← hgrown w]
    cases (b.limbs ++ List.replicate (d / 64 + 1 - b.limbs.length) 0#64)[w]? <;> rfl

@[simp] theorem limb_erase (b : Packed) (d : DefId) (w : Nat) :
    (b.erase d).limb w = if d / 64 = w then b.limb w &&& ~~~Limb.bit (d % 64) else b.limb w := by
  rw [erase, limb, getD_trim, List.getD_eq_getElem?_getD, List.getElem?_modify, limb,
    List.getD_eq_getElem?_getD]
  cases b.limbs[w]? with
  | none =>
    split
    · exact (BitVec.zero_and).symm
    · rfl
  | some x => split <;> rfl

/-- The operation is to leave zeros alone. -/
theorem limb_zipWith {f : Limb → Limb → Limb} (hf : f 0#64 0#64 = 0#64) (a b : Packed) (w : Nat) :
    (zipWith f a b).limb w = f (a.limb w) (b.limb w) := by
  rw [zipWith, limb, getD_trim, List.getD_eq_getElem?_getD]
  rcases Nat.lt_or_ge w (max a.limbs.length b.limbs.length) with hlt | hge
  · rw [List.getElem?_map, List.getElem?_range hlt]
    rfl
  · rw [List.getElem?_eq_none (by simpa using hge), limb_of_length_le (by omega),
      limb_of_length_le (by omega), hf]
    rfl

@[simp] theorem limb_union (a b : Packed) (w : Nat) :
    (a.union b).limb w = a.limb w ||| b.limb w := limb_zipWith rfl a b w

@[simp] theorem limb_intersect (a b : Packed) (w : Nat) :
    (a.intersect b).limb w = a.limb w &&& b.limb w := limb_zipWith rfl a b w

@[simp] theorem limb_difference (a b : Packed) (w : Nat) :
    (a.difference b).limb w = a.limb w &&& ~~~b.limb w := limb_zipWith (by decide) a b w

/-! ## Membership -/

theorem contains_eq (b : Packed) (d : DefId) :
    b.contains d = (b.limb (d / 64)).getLsbD (d % 64) := by
  rw [contains, limb, List.getD_eq_getElem?_getD]
  cases b.limbs[d / 64]? with
  | none => exact BitVec.getLsbD_zero.symm
  | some limb => exact limb.has_eq_getLsbD (Nat.mod_lt d (by decide))

/-- In one limb, ids are told apart by their bits. -/
theorem mod_eq_iff_of_div_eq {m n : Nat} (h : m / 64 = n / 64) : m % 64 = n % 64 ↔ m = n := by
  omega

@[simp] theorem contains_empty (d : DefId) : empty.contains d = false := rfl

@[simp] theorem contains_insert (b : Packed) (d e : DefId) :
    (b.insert d).contains e = (b.contains e || decide (d = e)) := by
  have hbit := Limb.getLsbD_bit (j := e % 64) (Nat.mod_lt d (by decide))
  rw [contains_eq, contains_eq, limb_insert]
  split
  · rename_i hplace
    rw [BitVec.getLsbD_or, hbit, decide_eq_decide.2 (mod_eq_iff_of_div_eq hplace)]
  · rename_i hplace
    have hne : d ≠ e := fun h => hplace (h ▸ rfl)
    rw [decide_eq_false hne, Bool.or_false]

@[simp] theorem contains_erase (b : Packed) (d e : DefId) :
    (b.erase d).contains e = (b.contains e && decide (d ≠ e)) := by
  have hbit := Limb.getLsbD_bit (j := e % 64) (Nat.mod_lt d (by decide))
  have hlt : e % 64 < 64 := Nat.mod_lt e (by decide)
  rw [contains_eq, contains_eq, limb_erase]
  split
  · rename_i hplace
    rw [BitVec.getLsbD_and, BitVec.getLsbD_not, hbit, decide_eq_true hlt,
      decide_eq_decide.2 (mod_eq_iff_of_div_eq hplace), Bool.true_and, decide_not]
  · rename_i hplace
    have hne : d ≠ e := fun h => hplace (h ▸ rfl)
    rw [decide_eq_true hne, Bool.and_true]

@[simp] theorem contains_union (a b : Packed) (d : DefId) :
    (a.union b).contains d = (a.contains d || b.contains d) := by
  rw [contains_eq, contains_eq, contains_eq, limb_union, BitVec.getLsbD_or]

@[simp] theorem contains_intersect (a b : Packed) (d : DefId) :
    (a.intersect b).contains d = (a.contains d && b.contains d) := by
  rw [contains_eq, contains_eq, contains_eq, limb_intersect, BitVec.getLsbD_and]

@[simp] theorem contains_difference (a b : Packed) (d : DefId) :
    (a.difference b).contains d = (a.contains d && !b.contains d) := by
  have hlt : d % 64 < 64 := Nat.mod_lt d (by decide)
  rw [contains_eq, contains_eq, contains_eq, limb_difference, BitVec.getLsbD_and,
    BitVec.getLsbD_not, decide_eq_true hlt, Bool.true_and]

/-- Limbs are equal where membership is. -/
theorem limb_eq_iff {w : Nat} : a.limb w = b.limb w ↔
    ∀ i < 64, a.contains (64 * w + i) = b.contains (64 * w + i) := by
  have hbit (b : Packed) {i : Nat} (hi : i < 64) :
      b.contains (64 * w + i) = (b.limb w).getLsbD i := by
    rw [contains_eq, show (64 * w + i) / 64 = w by omega, show (64 * w + i) % 64 = i by omega]
  constructor
  · intro h i hi
    rw [hbit a hi, hbit b hi, h]
  · intro h
    refine BitVec.eq_of_getLsbD_eq fun i hi => ?_
    rw [← hbit a hi, ← hbit b hi, h i hi]

end Packed

end EntityBase
