import EntityBase.Proofs.Binary64.Order
import EntityBase.Proofs.Store.WellFormed
import EntityBase.Selection
import Mathlib.Data.Sum.Order

/-!
# Sorting entities by an attribute

An order sorts by keys that the declared type of a property makes of stored values. The
keys of one type are all texts or all numbers, and the comparison of two of them is that
of their ranks in a linear order (`SortKey.order_eq`); what is no number is never stored.
So the comparison that sorts is a total preorder, in either direction and with entities
without a key behind all others, and sorting is stable. `OrderBy.Sorts` says what
comes of that.
-/

namespace EntityBase

/-! ## Stored values -/

namespace Json

variable {value next : Json}

theorem wellFormedItems_iff {items : List Json} :
    WellFormedItems items ↔ ∀ item ∈ items, item.WellFormed := by
  induction items with
  | nil => simp [WellFormedItems]
  | cons item rest ih => simp [WellFormedItems, ih]

theorem WellFormed.step? {segment : List Char} (hvalue : value.WellFormed)
    (h : step? segment value = some next) : next.WellFormed := by
  cases value with
  | object fields =>
    have hfields : Entries.Sorted fields ∧ WellFormedFields fields := hvalue
    exact wellFormedFields_iff.1 hfields.2 _ (Entries.mem_of_get? h)
  | array items =>
    obtain ⟨i, -, hitem⟩ := Option.bind_eq_some_iff.1 h
    exact wellFormedItems_iff.1 hvalue _ (List.mem_of_getElem? hitem)
  | _ => cases h

theorem WellFormed.follow {path : List (List Char)} (hvalue : value.WellFormed)
    (h : follow value path = some next) : next.WellFormed := by
  induction path generalizing value with
  | nil =>
    obtain rfl := Option.some.inj h
    exact hvalue
  | cons segment rest ih =>
    obtain ⟨between, hstep, hrest⟩ := Option.bind_eq_some_iff.1 h
    exact ih (hvalue.step? hstep) hrest

theorem WellFormed.pointer? {path : List Char} (hvalue : value.WellFormed)
    (h : pointer? value path = some next) : next.WellFormed := by
  unfold Json.pointer? at h
  split at h
  · obtain rfl := Option.some.inj h
    exact hvalue
  · exact hvalue.follow h
  · cases h

end Json

variable {s : Store} {e : EntityId} {d : DefId} {a : Attribute} {field : Json}

/-- **What an attribute reads is well-formed** in a store of well-formed data. -/
theorem Store.WellFormed.fieldBy? (hs : s.WellFormed) (h : s.fieldBy? a e d = some field) :
    field.WellFormed := by
  obtain ⟨c, hc, hfield⟩ := Option.bind_eq_some_iff.1 h
  have hfields {name : String} {value : Json} (hget : c.attributes.get? name = some value) :
      value.WellFormed :=
    Json.wellFormedFields_iff.1 (hs.row _ c hc).fields _ (Entries.mem_of_get? hget)
  unfold Component.pointer? at hfield
  split at hfield
  · obtain ⟨value, hget, hvalue⟩ := Option.bind_eq_some_iff.1 hfield
    exact (hfields hget).pointer? hvalue
  · exact hfields hfield

/-! ## Keys -/

namespace SortKey

open Binary64

variable {type : PropertyType} {k l : SortKey}

/-- Whether a key is one that values have under a type: a number for numbers and dates,
a text for everything else. -/
def IsOf (type : PropertyType) : SortKey → Prop
  | .text _ => type = .string ∨ type = .boolean ∨ type = .json
  | .number x => (type = .integer ∨ type = .number ∨ type = .datetime) ∧ IsNumber x

/-- **Keys of one type are of one sort**, and never of what is no number. -/
theorem isOf_ofField? (hfield : field.WellFormed) (h : ofField? type field = some k) :
    k.IsOf type := by
  have hnumber {x : Float} (h : field.toFloat? = some x) : IsNumber x := by
    cases field with
    | int n =>
      obtain rfl := Option.some.inj h
      exact isNumber_ofInt n
    | float y =>
      obtain rfl := Option.some.inj h
      exact isNumber_of_isFinite hfield
    | _ => cases h
  cases type with
  | string =>
    cases field with
    | string t =>
      obtain rfl := Option.some.inj h
      exact .inl rfl
    | _ => cases h
  | integer =>
    obtain ⟨x, hx, rfl⟩ := Option.map_eq_some_iff.1 h
    exact ⟨.inl rfl, hnumber hx⟩
  | number =>
    obtain ⟨x, hx, rfl⟩ := Option.map_eq_some_iff.1 h
    exact ⟨.inr (.inl rfl), hnumber hx⟩
  | datetime =>
    obtain ⟨t, -, rfl⟩ := Option.map_eq_some_iff.1 h
    exact ⟨.inr (.inr rfl), isNumber_ofInt _⟩
  | boolean =>
    obtain rfl := Option.some.inj h
    exact .inr (.inl rfl)
  | json =>
    obtain rfl := Option.some.inj h
    exact .inr (.inr rfl)

/-- Whether a key is at most another one of its sort. -/
def Le : SortKey → SortKey → Prop
  | .text s, .text t => s ≤ t
  | .number x, .number y => x ≤ y
  | _, _ => False

instance : DecidableRel Le
  | .text s, .text t => inferInstanceAs (Decidable (s ≤ t))
  | .number x, .number y => inferInstanceAs (Decidable (x ≤ y))
  | .text _, .number _ | .number _, .text _ => inferInstanceAs (Decidable False)

/-- The place of a key in a linear order. -/
def rank : SortKey → String ⊕ₗ (ℤ ×ₗ ℤ ×ₗ ℤ)
  | .text s => toLex (.inl s)
  | .number x => toLex (.inr (Binary64.rank x))

theorem exists_sort (hk : k.IsOf type) (hl : l.IsOf type) :
    (∃ s t, k = .text s ∧ l = .text t) ∨
      ∃ x y, k = .number x ∧ l = .number y ∧ IsNumber x ∧ IsNumber y := by
  cases k with
  | text s =>
    cases l with
    | text t => exact .inl ⟨s, t, rfl, rfl⟩
    | number y =>
      obtain ⟨hl, -⟩ := hl
      rcases hk with rfl | rfl | rfl <;> rcases hl with h | h | h <;> cases h
  | number x =>
    obtain ⟨hk, hx⟩ := hk
    cases l with
    | text t => rcases hl with rfl | rfl | rfl <;> rcases hk with h | h | h <;> cases h
    | number y => exact .inr ⟨x, y, rfl, rfl, hx, hl.2⟩

/-- **Keys of one type compare as their ranks do.** -/
theorem order_eq (hk : k.IsOf type) (hl : l.IsOf type) : k.order l = compare k.rank l.rank := by
  rcases exists_sort hk hl with ⟨s, t, rfl, rfl⟩ | ⟨x, y, rfl, rfl, hx, hy⟩
  · exact (Binary64.compare_map Sum.Lex.inl_strictMono s t).symm
  · rw [order, floatOrder?_of_isNumber hx hy, Option.getD_some]
    exact (Binary64.compare_map Sum.Lex.inr_strictMono (Binary64.rank x) (Binary64.rank y)).symm

theorem le_iff (hk : k.IsOf type) (hl : l.IsOf type) : k.Le l ↔ k.rank ≤ l.rank := by
  rcases exists_sort hk hl with ⟨s, t, rfl, rfl⟩ | ⟨x, y, rfl, rfl, hx, hy⟩
  · exact Sum.Lex.inl_le_inl_iff.symm
  · exact (le_iff_rank_le hx hy).trans Sum.Lex.inr_le_inr_iff.symm

end SortKey

/-! ## The comparison that sorts -/

namespace OrderBy

/-- Whether a rank may stand before another in a direction, none behind all others. -/
def rankPrecedes {ρ : Type} [LinearOrder ρ] (direction : Direction) : Option ρ → Option ρ → Bool
  | some p, some q =>
    match direction with
    | .ascending => decide (p ≤ q)
    | .descending => decide (q ≤ p)
  | _, none => true
  | none, some _ => false

section Preorder

variable {ρ : Type} [LinearOrder ρ] (direction : Direction)

theorem rankPrecedes_trans (p q r : Option ρ) (hpq : rankPrecedes direction p q = true)
    (hqr : rankPrecedes direction q r = true) : rankPrecedes direction p r = true := by
  rcases p with _ | p <;> rcases q with _ | q <;> rcases r with _ | r <;>
    simp only [rankPrecedes, Bool.false_eq_true] at hpq hqr ⊢
  cases direction with
  | ascending => exact decide_eq_true ((of_decide_eq_true hpq).trans (of_decide_eq_true hqr))
  | descending => exact decide_eq_true ((of_decide_eq_true hqr).trans (of_decide_eq_true hpq))

theorem rankPrecedes_total (p q : Option ρ) :
    (rankPrecedes direction p q || rankPrecedes direction q p) = true := by
  rcases p with _ | p <;> rcases q with _ | q <;> try rfl
  cases direction with
  | ascending => simpa [rankPrecedes] using le_total p q
  | descending => simpa [rankPrecedes] using le_total q p

end Preorder

/-- What a stable sort leaves alone: elements that may stand in either order stand in the
order in which they were given. -/
theorem filter_mergeSort {α : Type} {le : α → α → Bool}
    (trans : ∀ a b c, le a b = true → le b c = true → le a c = true)
    (total : ∀ a b, (le a b || le b a) = true) {p : α → Bool}
    (htied : ∀ a b, p a = true → p b = true → le a b = true) (l : List α) :
    (l.mergeSort le).filter p = l.filter p := by
  have hpairwise : (l.filter p).Pairwise fun a b => le a b = true :=
    List.pairwise_of_forall_mem_list fun a ha b hb =>
      htied a b (List.mem_filter.1 ha).2 (List.mem_filter.1 hb).2
  have hsub := (List.sublist_mergeSort trans total hpairwise List.filter_sublist).filter p
  rw [List.filter_filter] at hsub
  simp only [Bool.and_self] at hsub
  exact (hsub.eq_of_length ((List.mergeSort_perm l le).filter p).length_eq.symm).symm

/-! ## What comes of sorting -/

variable {o : OrderBy} {def_ : Definition} {ids : List EntityId}

/-- The registered definition of the attribute that an order goes by. -/
def definition? (o : OrderBy) (s : Store) : Option Definition :=
  o.attr.defId?.bind fun d => s.definition? (.id d)

/-- Whether two keys stand in the direction of an order: they do not decrease, or they do
not increase. -/
def InOrder (direction : Direction) (k l : SortKey) : Prop :=
  match direction with
  | .ascending => k.Le l
  | .descending => l.Le k

/-- Whether two entities have equal keys, or neither has one. -/
def Tied : Option SortKey → Option SortKey → Prop
  | some k, some l => k.Le l ∧ l.Le k
  | none, none => True
  | _, _ => False

instance : DecidableRel Tied
  | some k, some l => inferInstanceAs (Decidable (k.Le l ∧ l.Le k))
  | none, none => inferInstanceAs (Decidable True)
  | some _, none | none, some _ => inferInstanceAs (Decidable False)

/-- What an order makes of candidates by the keys that a definition gives them: the same
entities, those without a key behind the others, the keys in the direction of the order,
and entities that tie as the candidates stand. -/
structure Sorts (o : OrderBy) (s : Store) (d : Definition) (ids sorted : List EntityId) :
    Prop where
  perm : sorted.Perm ids
  keyless_last : sorted.Pairwise fun x y => o.key? s d x = none → o.key? s d y = none
  in_order : sorted.Pairwise fun x y => ∀ k ∈ o.key? s d x, ∀ l ∈ o.key? s d y,
    InOrder o.direction k l
  stable : ∀ e, sorted.filter (fun x => Tied (o.key? s d x) (o.key? s d e))
    = ids.filter fun x => Tied (o.key? s d x) (o.key? s d e)

theorem isOf_key? (hs : s.WellFormed) {k : SortKey} (h : o.key? s def_ e = some k) :
    k.IsOf (o.type def_) := by
  obtain ⟨field, hfield, hkey⟩ := Option.bind_eq_some_iff.1 h
  exact SortKey.isOf_ofField? (hs.fieldBy? hfield) hkey

/-- The rank of an entity, if it has a key. -/
def rank? (o : OrderBy) (s : Store) (d : Definition) (e : EntityId) :
    Option (String ⊕ₗ (ℤ ×ₗ ℤ ×ₗ ℤ)) :=
  (o.key? s d e).map SortKey.rank

/-- **The comparison that sorts is that of ranks.** -/
theorem precedes_eq (hs : s.WellFormed) (x y : EntityId) :
    precedes o.direction (o.key? s def_ x) (o.key? s def_ y)
      = rankPrecedes o.direction (o.rank? s def_ x) (o.rank? s def_ y) := by
  have hle (p q : String ⊕ₗ (ℤ ×ₗ ℤ ×ₗ ℤ)) : (compare p q).isLE = decide (p ≤ q) := by
    rw [Bool.eq_iff_iff, Ordering.isLE_iff_ne_gt, decide_eq_true_iff]
    exact compare_le_iff_le
  unfold rank?
  cases hx : o.key? s def_ x with
  | none => cases o.key? s def_ y <;> rfl
  | some k =>
    cases hy : o.key? s def_ y with
    | none => rfl
    | some l =>
      have hk := isOf_key? hs hx
      have hl := isOf_key? hs hy
      unfold precedes
      cases o.direction with
      | ascending =>
        dsimp only
        rw [SortKey.order_eq hk hl, hle]
        rfl
      | descending =>
        dsimp only
        rw [SortKey.order_eq hl hk, hle]
        rfl

theorem tied_iff (hs : s.WellFormed) {x y : EntityId} :
    Tied (o.key? s def_ x) (o.key? s def_ y) ↔ o.rank? s def_ x = o.rank? s def_ y := by
  unfold rank?
  cases hx : o.key? s def_ x with
  | none => cases o.key? s def_ y <;> simp [Tied]
  | some k =>
    cases hy : o.key? s def_ y with
    | none => simp [Tied]
    | some l =>
      have hk := isOf_key? hs hx
      have hl := isOf_key? hs hy
      rw [Tied, SortKey.le_iff hk hl, SortKey.le_iff hl hk, ← le_antisymm_iff]
      simp

/-- The keys are taken before the sort, and what is sorted are the entities. -/
theorem sort_eq_mergeSort (hdef : o.definition? s = some def_) {le : EntityId → EntityId → Bool}
    (hle : ∀ x ∈ ids, ∀ y ∈ ids,
      le x y = precedes o.direction (o.key? s def_ x) (o.key? s def_ y)) :
    o.sort s ids = ids.mergeSort le := by
  have hsort := List.map_mergeSort (l := ids) (r := le)
    (s := fun x y => precedes o.direction x.2 y.2) (f := fun e => (e, o.key? s def_ e)) hle
  have hdef' : (o.attr.defId?.bind fun d => s.definition? (.id d)) = some def_ := hdef
  unfold sort
  rw [hdef']
  dsimp only
  rw [← hsort, List.map_map]
  exact List.map_id _

/-- Sorting by a registered definition is sorting by ranks. -/
theorem sort_eq (hs : s.WellFormed) (hdef : o.definition? s = some def_) :
    o.sort s ids = ids.mergeSort fun x y =>
      rankPrecedes o.direction (o.rank? s def_ x) (o.rank? s def_ y) :=
  sort_eq_mergeSort hdef fun x _ y _ => (precedes_eq hs x y).symm

/-- Sorting loses nothing and adds nothing. -/
theorem perm_sort (o : OrderBy) (s : Store) (ids : List EntityId) : (o.sort s ids).Perm ids := by
  unfold sort
  split
  · rename_i def_ _
    have hkeyed := (List.mergeSort_perm (ids.map fun e => (e, o.key? s def_ e)) fun x y =>
      precedes o.direction x.2 y.2).map Prod.fst
    rw [List.map_map] at hkeyed
    exact hkeyed.trans (List.Perm.of_eq (List.map_id _))
  · exact List.Perm.refl _

/-- **Sorting is stable sorting by keys**, in either direction. -/
theorem sorts (hs : s.WellFormed) (hdef : o.definition? s = some def_) (ids : List EntityId) :
    o.Sorts s def_ ids (o.sort s ids) := by
  have htrans := fun x y z : EntityId => rankPrecedes_trans o.direction (o.rank? s def_ x)
    (o.rank? s def_ y) (o.rank? s def_ z)
  have htotal := fun x y : EntityId => rankPrecedes_total o.direction (o.rank? s def_ x)
    (o.rank? s def_ y)
  have hpairwise := List.pairwise_mergeSort htrans htotal ids
  rw [sort_eq hs hdef]
  refine ⟨List.mergeSort_perm _ _, hpairwise.imp fun {x y} h hx => ?_,
    hpairwise.imp fun {x y} h k hk l hl => ?_, fun e => ?_⟩
  · unfold rank? at h
    rw [hx] at h
    cases hy : o.key? s def_ y with
    | none => rfl
    | some l =>
      rw [hy] at h
      cases h
  · have hk' := isOf_key? hs hk
    have hl' := isOf_key? hs hl
    unfold rank? at h
    rw [Option.mem_def.1 hk, Option.mem_def.1 hl] at h
    unfold InOrder
    cases hdirection : o.direction with
    | ascending =>
      rw [hdirection] at h
      exact (SortKey.le_iff hk' hl').2 (of_decide_eq_true h)
    | descending =>
      rw [hdirection] at h
      exact (SortKey.le_iff hl' hk').2 (of_decide_eq_true h)
  · refine filter_mergeSort htrans htotal (fun x y hx hy => ?_) ids
    have hx := (tied_iff hs).1 (of_decide_eq_true hx)
    have hy := (tied_iff hs).1 (of_decide_eq_true hy)
    rw [hx, hy]
    exact (Bool.or_self _).symm.trans (rankPrecedes_total _ _ _)

/-- An attribute of no registered definition orders nothing. -/
theorem sort_unregistered (hdef : o.definition? s = none) (ids : List EntityId) :
    o.sort s ids = ids := by
  have hdef' : (o.attr.defId?.bind fun d => s.definition? (.id d)) = none := hdef
  unfold sort
  rw [hdef']

end OrderBy

end EntityBase
