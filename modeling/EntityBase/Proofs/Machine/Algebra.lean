import EntityBase.Proofs.Machine.Integers
import EntityBase.Proofs.Value.Algebra

/-!
# Set algebra of lists and maps, in programs

On lists the words `union`, `intersect` and `diff` are set algebra up to the equality of the
language, with the order of first occurrence kept (`ListAlgebra`). On maps they are set algebra
of keys (`MapAlgebra`). Of the items that asks only that they equal themselves
(`words_are_set_algebra`), as all scalars do but a double that is no number
(`Scalar.same_self_iff`).
-/

namespace EntityBase.Machine

open Value

variable {a b : List Value} {m n : Table String Value}

/-- **What the set operations make of two lists.** -/
structure ListAlgebra (a b : List Value) : Prop where
  /-- the words leave it, the top list being the right operand -/
  words (op : SetOp) {runList : List Value → Run Flow} {env : Env} {s : State} {rest : List Value}
    (hname : Unhidden op.text env s) (hitems : s.frame.items = .list b :: .list a :: rest) :
    runName runList op.text env s = (.ok .next, s.withItems (.list (op.onLists a b) :: rest))
  /-- no two items are equal -/
  distinct (op : SetOp) :
    (op.onLists a b).Pairwise fun v w => v.same w = false ∧ w.same v = false
  /-- which values equal an item of a union -/
  union (v : Value) : v.isIn (SetOp.union.onLists a b) = (v.isIn a || v.isIn b)
  /-- which values equal an item of an intersection -/
  intersect (v : Value) : v.isIn (SetOp.intersect.onLists a b) = (v.isIn a && v.isIn b)
  /-- which values equal an item of a difference -/
  diff (v : Value) : v.isIn (SetOp.diff.onLists a b) = (v.isIn a && !v.isIn b)
  /-- the items come in the order of their first occurrence -/
  ordered (op : SetOp) : FirstOccurrences (op.source a b) (op.onLists a b)
  /-- what a union has behind the left operand is the difference of the right one -/
  append : SetOp.union.onLists a b = firstOnes [] a ++ SetOp.diff.onLists b a
  /-- intersection and difference share out the items of the left operand -/
  shared {v : Value} (hv : v ∈ firstOnes [] a) :
    (v ∈ SetOp.intersect.onLists a b ∧ v.isIn (SetOp.diff.onLists a b) = false) ∨
      (v ∈ SetOp.diff.onLists a b ∧ v.isIn (SetOp.intersect.onLists a b) = false)

/-- **What the set operations make of two maps.** -/
structure MapAlgebra (m n : Table String Value) : Prop where
  /-- the words leave it, the top map being the right operand -/
  words (op : SetOp) {runList : List Value → Run Flow} {env : Env} {s : State} {rest : List Value}
    (hname : Unhidden op.text env s)
    (hitems : s.frame.items = .map n.entries :: .map m.entries :: rest) :
    runName runList op.text env s
      = (.ok .next, s.withItems (.map (op.onMaps m.entries n.entries) :: rest))
  /-- every key stands once, in order -/
  sorted (op : SetOp) : Entries.Sorted (op.onMaps m.entries n.entries)
  /-- a union has the keys of both, and the right operand wins -/
  union (k : String) :
    Entries.get? k (SetOp.union.onMaps m.entries n.entries) = (n.get? k).or (m.get? k)
  /-- an intersection keeps what has a key of the right operand -/
  intersect (k : String) : Entries.get? k (SetOp.intersect.onMaps m.entries n.entries)
    = if n.contains k then m.get? k else none
  /-- a difference keeps the rest -/
  diff (k : String) : Entries.get? k (SetOp.diff.onMaps m.entries n.entries)
    = if n.contains k then none else m.get? k
  /-- the two together are the left operand again -/
  whole : SetOp.union.onMaps (SetOp.intersect.onMaps m.entries n.entries)
    (SetOp.diff.onMaps m.entries n.entries) = m.entries
  /-- and they have no key in common -/
  disjoint (k : String) : Entries.get? k (SetOp.intersect.onMaps m.entries n.entries) = none ∨
    Entries.get? k (SetOp.diff.onMaps m.entries n.entries) = none

theorem listAlgebra (hself : ∀ v ∈ a ++ b, v.same v = true) : ListAlgebra a b where
  words op _ _ _ _ hname hitems := runName_combine op hname hitems rfl
  distinct := SetOp.pairwise_onLists
  union _ := SetOp.isIn_union
  intersect _ := SetOp.isIn_intersect
  diff _ := SetOp.isIn_diff
  ordered op := SetOp.firstOccurrences_onLists op hself
  append := SetOp.union_onLists
  shared := SetOp.mem_intersect_or_diff

theorem mapAlgebra : MapAlgebra m n where
  words op _ _ _ _ hname hitems := runName_combine op hname hitems rfl
  sorted := SetOp.sorted_onMaps
  union _ := SetOp.get?_union
  intersect _ := SetOp.get?_intersect
  diff _ := SetOp.get?_diff
  whole := SetOp.union_intersect_diff
  disjoint k := by
    rw [SetOp.get?_intersect, SetOp.get?_diff]
    cases n.contains k
    · exact .inl rfl
    · exact .inr rfl

/-- **The words of set algebra.** Two lists whose items equal themselves are united,
intersected and subtracted up to equality, and what is left stands in the order of first
occurrence. Two maps are united, intersected and subtracted by their keys. -/
theorem words_are_set_algebra (hself : ∀ v ∈ a ++ b, v.same v = true) :
    ListAlgebra a b ∧ MapAlgebra m n :=
  ⟨listAlgebra hself, mapAlgebra⟩

/-- What is left of `[1 "x" 1.0 "x"]` without `1.0` is `["x"]`. -/
theorem words_are_set_algebra_numbers :
    let env : Env := { limits := {}, now := default }
    let one : Value := .scalar (.float 1.0)
    let s : State :=
      { frame := { items := [.list [one], .list [.int 1, .text "x", one, .text "x"]] } }
    runName (fun _ => pure .next) "diff" env s = (.ok .next, s.withItems [.list [.text "x"]]) := by
  intro env one s
  have hself : ∀ v ∈ [.int 1, .text "x", one, .text "x"] ++ [one], v.same v = true := by
    decide +kernel
  obtain ⟨hlists, -⟩ := words_are_set_algebra (m := ∅) (n := ∅) hself
  have hint : one.same (.int 1) = true := by decide +kernel
  have hone : one.same one = true := by decide +kernel
  have hx : one.same (.text "x") = false := by decide +kernel
  have htext : (Value.text "x").same (.text "x") = true := by decide +kernel
  have hleft : SetOp.diff.onLists [.int 1, .text "x", one, .text "x"] [one] = [.text "x"] := by
    simp [SetOp.onLists, firstOnes, isIn, hint, hone, hx, htext]
  rw [← hleft]
  exact hlists.words .diff (unhidden_of_bare rfl rfl) rfl

end EntityBase.Machine
