import EntityBase.Ids

/-!
# Bitfields — sets of definition ids, read as shapes or as masks

A bitfield is the **shape** of an entity (which definitions it carries)
and also a query **mask**. The set is one natural number whose bit `d`
says whether `d` belongs to it, so membership is `Nat.testBit` and the
set operations are the bitwise ones; `Bitfield.ext_mem` says that nothing
but the members counts.

As a mask, the mode decides what an entity needs: every bit, at least one,
none, or not every one. The `all` sentinel beside the set matches every
entity. It is kept by a union and dropped by the other set operations.
-/

namespace EntityBase

/-- How the bits of a mask are to be met by the shape of an entity. -/
inductive MaskMode where
  /-- every bit of the mask -/
  | and
  /-- at least one bit of the mask -/
  | or
  /-- no bit of the mask -/
  | not
  /-- not every bit of the mask -/
  | notAll
deriving DecidableEq, Repr, Inhabited

/-- The name of a mode in displays. -/
def MaskMode.text : MaskMode → String
  | .and => "and"
  | .or => "or"
  | .not => "not"
  | .notAll => "not-all"

/-- A set of definition ids with the mode in which it is read as a mask. -/
structure Bitfield where
  bits : Nat := 0
  mode : MaskMode := .and
  /-- the sentinel: as a mask, match every entity -/
  all : Bool := false
deriving DecidableEq, Repr, Inhabited

namespace Bitfield

/-- The empty set. -/
def empty : Bitfield := {}

/-- The sentinel that matches every entity. -/
def universal : Bitfield := { all := true }

/-- Whether `d` belongs to the set. -/
def contains (b : Bitfield) (d : DefId) : Bool := b.bits.testBit d

/-- The set with `d`. -/
def insert (b : Bitfield) (d : DefId) : Bitfield := { b with bits := b.bits ||| 1 <<< d }

/-- The set without `d`. -/
def erase (b : Bitfield) (d : DefId) : Bitfield :=
  { b with bits := if b.bits.testBit d then b.bits ^^^ 1 <<< d else b.bits }

/-- The set of the listed ids. -/
def ofList (ids : List DefId) : Bitfield := ids.foldl insert empty

/-- The bits of a number from `64 * w` up to the next multiple, increasing. -/
def block (bits w : Nat) : List Nat :=
  let word := (bits >>> (64 * w)) % 0x10000000000000000
  if word = 0 then [] else ((List.range 64).filter word.testBit).map (64 * w + ·)

/-- The members, increasing. They are listed block by block, so a large id
does not make a small set slow. -/
def toList (b : Bitfield) : List DefId :=
  (List.range (b.bits.log2 / 64 + 1)).flatMap (block b.bits)

/-- The number of members. -/
def size (b : Bitfield) : Nat := b.toList.length

/-- Whether there is no member. -/
def isEmpty (b : Bitfield) : Bool := b.bits == 0

/-- The members of either, read as the left operand is. -/
def union (a b : Bitfield) : Bitfield :=
  { bits := a.bits ||| b.bits, mode := a.mode, all := a.all || b.all }

/-- The members of both, read as the left operand is. -/
def intersect (a b : Bitfield) : Bitfield :=
  { bits := a.bits &&& b.bits, mode := a.mode }

/-- The members of the left operand alone, read as it is. -/
def difference (a b : Bitfield) : Bitfield :=
  { bits := a.bits ^^^ (a.bits &&& b.bits), mode := a.mode }

/-- Whether an entity of the given shape meets the mask. -/
def matchesShape (mask shape : Bitfield) : Bool :=
  mask.all ||
    match mask.mode with
    | .and => shape.bits &&& mask.bits == mask.bits
    | .or => shape.bits &&& mask.bits != 0
    | .not => shape.bits &&& mask.bits == 0
    | .notAll => shape.bits &&& mask.bits != mask.bits

/-- Equality as the query language sees it: a sentinel equals sentinels
only, and two sets are equal when they agree in members and mode. -/
def same (a b : Bitfield) : Bool :=
  if a.all || b.all then a.all == b.all else a.mode == b.mode && a.bits == b.bits

/-- The display: mode and members, `bf(or 1,5)`. -/
def text (b : Bitfield) : String :=
  if b.all then "bf(all)"
  else "bf(" ++ b.mode.text ++ " " ++ String.intercalate "," (b.toList.map toString) ++ ")"

@[simp] theorem contains_empty (d : DefId) : empty.contains d = false := by
  simp [contains, empty]

@[simp] theorem contains_insert (b : Bitfield) (d e : DefId) :
    (b.insert d).contains e = (b.contains e || decide (d = e)) := by
  simp [contains, insert, Nat.testBit_or, Nat.one_shiftLeft, Nat.testBit_two_pow]

@[simp] theorem contains_erase (b : Bitfield) (d e : DefId) :
    (b.erase d).contains e = (b.contains e && decide (d ≠ e)) := by
  unfold contains erase
  by_cases hd : b.bits.testBit d
  · by_cases he : d = e
    · subst he
      simp [hd, Nat.testBit_xor, Nat.one_shiftLeft]
    · simp [hd, he, Nat.testBit_xor, Nat.one_shiftLeft]
  · by_cases he : d = e
    · subst he
      simp [hd]
    · simp [hd, he]

@[simp] theorem contains_union (a b : Bitfield) (d : DefId) :
    (a.union b).contains d = (a.contains d || b.contains d) := by
  simp [contains, union, Nat.testBit_or]

@[simp] theorem contains_intersect (a b : Bitfield) (d : DefId) :
    (a.intersect b).contains d = (a.contains d && b.contains d) := by
  simp [contains, intersect, Nat.testBit_and]

@[simp] theorem contains_difference (a b : Bitfield) (d : DefId) :
    (a.difference b).contains d = (a.contains d && !b.contains d) := by
  simp only [contains, difference, Nat.testBit_xor, Nat.testBit_and]
  cases a.bits.testBit d <;> cases b.bits.testBit d <;> rfl

/-- Bitfields with the same mode, sentinel and members are equal. -/
theorem ext_mem {a b : Bitfield} (hm : a.mode = b.mode) (ha : a.all = b.all)
    (h : ∀ d, a.contains d = b.contains d) : a = b := by
  obtain ⟨x, m, s⟩ := a
  obtain ⟨y, n, t⟩ := b
  have : x = y := Nat.eq_of_testBit_eq h
  simp_all

theorem mem_block {bits w d : Nat} :
    d ∈ block bits w ↔ d / 64 = w ∧ bits.testBit d = true := by
  have hbit (i : Nat) : ((bits >>> (64 * w)) % 0x10000000000000000).testBit i
      = (decide (i < 64) && bits.testBit (64 * w + i)) := by
    rw [show 0x10000000000000000 = 2 ^ 64 from rfl, Nat.testBit_mod_two_pow, Nat.testBit_shiftRight]
  have hmem : d ∈ ((List.range 64).filter ((bits >>> (64 * w)) % 0x10000000000000000).testBit).map
      (64 * w + ·) ↔ d / 64 = w ∧ bits.testBit d = true := by
    simp only [List.mem_map, List.mem_filter, List.mem_range, hbit]
    constructor
    · rintro ⟨i, ⟨hi, hb⟩, rfl⟩
      simp only [hi, decide_true, Bool.true_and] at hb
      exact ⟨by omega, hb⟩
    · rintro ⟨hw, hb⟩
      refine ⟨d - 64 * w, ⟨by omega, ?_⟩, by omega⟩
      have hd : 64 * w + (d - 64 * w) = d := by omega
      have hlt : d - 64 * w < 64 := by omega
      simp [hd, hlt, hb]
  unfold block
  dsimp only
  split
  · rename_i h
    rw [h] at hmem
    simpa using hmem
  · exact hmem

theorem pairwise_block (bits w : Nat) : (block bits w).Pairwise (· < ·) := by
  unfold block
  dsimp only
  split
  · exact List.Pairwise.nil
  · rw [List.pairwise_map]
    exact List.Pairwise.imp (fun h => Nat.add_lt_add_left h _)
      (List.Pairwise.sublist List.filter_sublist List.pairwise_lt_range)

/-- The list holds the members and nothing else. -/
theorem mem_toList {b : Bitfield} {d : DefId} : d ∈ b.toList ↔ b.contains d := by
  unfold toList contains
  rw [List.mem_flatMap]
  constructor
  · rintro ⟨_, _, h⟩
    exact (mem_block.mp h).2
  · intro h
    refine ⟨d / 64, List.mem_range.mpr (Nat.lt_succ_of_le (Nat.div_le_div_right ?_)),
      mem_block.mpr ⟨rfl, h⟩⟩
    refine Nat.le_of_not_lt fun hlt => ?_
    have hb : b.bits < 2 ^ d :=
      Nat.lt_of_lt_of_le Nat.lt_log2_self (Nat.pow_le_pow_right (by decide) hlt)
    simp [Nat.testBit_lt_two_pow hb] at h

/-- The members are listed in increasing order. -/
theorem pairwise_toList (b : Bitfield) : b.toList.Pairwise (· < ·) := by
  unfold toList
  rw [List.pairwise_flatMap]
  refine ⟨fun w _ => pairwise_block b.bits w, List.Pairwise.imp ?_ List.pairwise_lt_range⟩
  intro v w hvw d hd e he
  have hd := (mem_block.mp hd).1
  have he := (mem_block.mp he).1
  exact Nat.lt_of_not_le fun h => by
    have := Nat.div_le_div_right (c := 64) h
    omega

end Bitfield

end EntityBase
