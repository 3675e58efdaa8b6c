import EntityBase.Proofs.Selection.Filter
import EntityBase.Proofs.Selection.Sorting
import EntityBase.Proofs.Value.Integers

/-!
# Integers in selections

A leaf of a filter compares an integer with its operand as two values, and an order
sorts by doubles. So filters and orders see of an integer of 64 bits what is left of it
in a double.
-/

namespace EntityBase

open Binary64 Value

variable {cmp : Int → Int → Ordering} {S : Set Int} {a b : Int} {ns : List Int} {op : CompareOp}
  {s : Store}

/-! ## Leaves -/

theorem ofJson_int (ha : fitsInt64 a) : Value.ofJson (.int a) = .int a := by
  rw [Value.ofJson, if_pos ha]

/-- **A stored integer and an integer.** -/
theorem compareField_int (h : Compares cmp S) (ha : a ∈ S) (hb : b ∈ S) :
    compareField (.int a) op (.int b) = op.holds (cmp a b) := by
  have hscalar : compareField (.int a) op (.int b) = compareScalar (.int a) op (.int b) := by
    cases op <;> rfl
  have hsame := same_int h ha hb
  have horder := order?_int h ha hb
  rw [← ofJson_int (h.fits a ha)] at hsame horder
  rw [hscalar]
  cases op with
  | eq => exact hsame
  | ne =>
    refine (congrArg (!·) hsame).trans ?_
    cases cmp a b <;> rfl
  | _ =>
    unfold compareScalar
    dsimp only
    rw [horder]

/-- **A stored integer and a list of integers.** -/
theorem compareField_ints (h : Compares cmp S) (ha : a ∈ S) (hns : ∀ n ∈ ns, n ∈ S) :
    compareField (.int a) op (.list (ns.map .int))
      = op.ofFound (ns.any fun n => (cmp a n).isEq) := by
  refine congrArg op.ofFound (any_map_eq fun n hn => ?_)
  rw [ofJson_int (h.fits a ha), equals_int h ha (hns n hn)]

/-- **Stored integers and an integer.** -/
theorem compareField_array (h : Compares cmp S) (hns : ∀ n ∈ ns, n ∈ S) (hb : b ∈ S) :
    compareField (.array (ns.map .int)) op (.int b)
      = op.ofFound (ns.any fun n => (cmp n b).isEq) := by
  have hany : ((ns.map Json.int).any fun item => (Value.ofJson item).same (.int b))
      = ns.any fun n => (cmp n b).isEq := by
    refine any_map_eq fun n hn => ?_
    rw [ofJson_int (h.fits n (hns n hn)), same_int h (hns n hn) hb]
  cases op with
  | eq => exact hany
  | ne => exact congrArg (!·) hany
  | _ => rfl

/-- Entities with one of some integers at a place of a component. -/
def Reads (s : Store) (S : Set Int) (a : Attribute) (d : DefId) (ids : List EntityId)
    (f : EntityId → Int) : Prop :=
  ∀ e ∈ ids, f e ∈ S ∧ s.fieldBy? a e d = some (.int (f e))

theorem eq_int_of_toInt64? {field : Option Json} (h : field.bind Json.toInt64? = some a) :
    field = some (.int a) := by
  obtain ⟨j, rfl, hint⟩ := Option.bind_eq_some_iff.1 h
  cases j with
  | int n =>
    obtain ⟨-, rfl⟩ : fitsInt64 n = true ∧ n = a := by simpa [Json.toInt64?] using hint
    rfl
  | _ => cases hint

/-- Entities with a list of such integers there. -/
def ReadsLists (s : Store) (S : Set Int) (a : Attribute) (d : DefId) (ids : List EntityId)
    (f : EntityId → List Int) : Prop :=
  ∀ e ∈ ids, (∀ n ∈ f e, n ∈ S) ∧ s.fieldBy? a e d = some (.array ((f e).map .int))

/-- The leaf of an attribute of one definition looks at the component by it alone. -/
theorem passes_of {d : DefId} {pointer : String} {e : EntityId} {field : Json} {operand : Value}
    (hs : s.Aligned) (h : s.fieldBy? (.of d pointer) e d = some field) :
    s.passes op (.of d pointer) operand e = compareField field op operand := by
  obtain ⟨c, hc, hfield⟩ := Option.bind_eq_some_iff.1 h
  have hmask : ∀ d', (Attribute.of d pointer).mask.contains d' = true ↔ d' = d := by
    intro d'
    simp [Attribute.of, eq_comm]
  have hmeets : s.Meets (Attribute.of d pointer).mask e := by
    refine .inr fun d' hd' => ?_
    obtain rfl := (hmask d').1 hd'
    exact Option.isSome_iff_exists.2 ⟨c, hc⟩
  rw [Bool.eq_iff_iff, Filter.passes_iff hs]
  constructor
  · rintro ⟨-, d', c', field', hd', hc', hfield', hcompare⟩
    obtain rfl := (hmask d').1 hd'
    obtain rfl := Option.some.inj (hc.symm.trans hc')
    obtain rfl := Option.some.inj (hfield.symm.trans hfield')
    exact hcompare
  · exact fun hcompare => ⟨hmeets, d, c, field, (hmask d).2 rfl, hc, hfield, hcompare⟩

section Entities

variable {ids : List EntityId} {f : EntityId → Int} {d : DefId} {pointer : String}
  (h : Compares cmp S)

include h

theorem apply_compare_int (hs : s.Aligned) (hf : Reads s S (.of d pointer) d ids f) (hb : b ∈ S) :
    (Filter.compare op (.of d pointer) (.int b)).apply s ids
      = ids.filter fun e => op.holds (cmp (f e) b) :=
  List.filter_congr fun e he =>
    (passes_of hs (hf e he).2).trans (compareField_int h (hf e he).1 hb)

theorem apply_compare_ints (hs : s.Aligned) (hf : Reads s S (.of d pointer) d ids f)
    (hns : ∀ n ∈ ns, n ∈ S) :
    (Filter.compare op (.of d pointer) (.list (ns.map .int))).apply s ids
      = ids.filter fun e => op.ofFound (ns.any fun n => (cmp (f e) n).isEq) :=
  List.filter_congr fun e he =>
    (passes_of hs (hf e he).2).trans (compareField_ints h (hf e he).1 hns)

theorem apply_compare_array {g : EntityId → List Int} (hs : s.Aligned)
    (hg : ReadsLists s S (.of d pointer) d ids g) (hb : b ∈ S) :
    (Filter.compare op (.of d pointer) (.int b)).apply s ids
      = ids.filter fun e => op.ofFound ((g e).any fun n => (cmp n b).isEq) :=
  List.filter_congr fun e he =>
    (passes_of hs (hg e he).2).trans (compareField_array h (hg e he).1 hb)

end Entities

/-! ## Orders -/

/-- Whether the first of two integers may stand before the second. -/
def Direction.allows (direction : Direction) (cmp : Int → Int → Ordering) (a b : Int) : Bool :=
  match direction with
  | .ascending => (cmp a b).isLE
  | .descending => (cmp b a).isLE

/-- **Integers under an integer type** sort as their doubles do. -/
theorem precedes_ints (direction : Direction) (h : Compares cmp S) (ha : a ∈ S) (hb : b ∈ S) :
    OrderBy.precedes direction (SortKey.ofField? .integer (.int a))
      (SortKey.ofField? .integer (.int b)) = direction.allows cmp a b := by
  have hkey {a b : Int} (ha : a ∈ S) (hb : b ∈ S) :
      (SortKey.number (Float.ofInt a)).order (.number (Float.ofInt b)) = cmp a b := by
    rw [SortKey.order, floatOrder?_ofInt h ha hb, Option.getD_some]
  cases direction with
  | ascending => exact congrArg Ordering.isLE (hkey ha hb)
  | descending => exact congrArg Ordering.isLE (hkey hb ha)

/-- **Entities with integers** are sorted by their doubles, the order within one
double as it was. -/
theorem sort_ints {o : OrderBy} {d : Definition} {ids : List EntityId} {f : EntityId → Int}
    (h : Compares cmp S) (hd : (o.attr.defId?.bind fun i => s.definition? (.id i)) = some d)
    (htype : o.type d = .integer) (hf : Reads s S o.attr d.id ids f) :
    o.sort s ids = ids.mergeSort fun x y => o.direction.allows cmp (f x) (f y) := by
  have hkey : ∀ e ∈ ids, o.key? s d e = SortKey.ofField? .integer (.int (f e)) := by
    intro e he
    rw [OrderBy.key?, (hf e he).2, htype]
    rfl
  have hle : ∀ x ∈ ids, ∀ y ∈ ids, o.direction.allows cmp (f x) (f y)
      = OrderBy.precedes o.direction (o.key? s d x) (o.key? s d y) := by
    intro x hx y hy
    rw [hkey x hx, hkey y hy, precedes_ints _ h (hf x hx).1 (hf y hy).1]
  exact OrderBy.sort_eq_mergeSort hd hle

end EntityBase
