/-!
# Tables — association lists in key order

The stored records, the fields of a component and the maps of the query
language are all finite functions that are read back **in key order**. A
list of entries is the one representation of all three: `Entries` holds
the operations on bare lists, which nested data types need, and `Table`
bundles a list with the proof that its keys strictly increase.

One pass inserts or replaces, so the two laws of look-up after an
insertion (`Entries.get?_insert`) and after a removal
(`Entries.get?_erase`) hold of every list, in order or not. Order is
needed only to conclude that two tables with the same look-ups are the
same table (`Table.ext_get?`).
-/

namespace EntityBase

namespace Entries

variable {κ ν μ : Type} [Ord κ]

/-- The value of the first entry with key `k`. -/
def get? (k : κ) : List (κ × ν) → Option ν
  | [] => none
  | (j, v) :: rest => if compare k j = .eq then some v else get? k rest

/-- Puts `v` at `k`: in front of the first greater key, or in the place of
an equal one. -/
def insert (k : κ) (v : ν) : List (κ × ν) → List (κ × ν)
  | [] => [(k, v)]
  | (j, w) :: rest =>
    match compare k j with
    | .lt => (k, v) :: (j, w) :: rest
    | .eq => (k, v) :: rest
    | .gt => (j, w) :: insert k v rest

/-- Drops every entry with key `k`. -/
def erase (k : κ) (entries : List (κ × ν)) : List (κ × ν) :=
  entries.filter fun e => compare k e.1 != .eq

/-- Whether some entry has key `k`. -/
def contains (k : κ) (entries : List (κ × ν)) : Bool :=
  (get? k entries).isSome

/-- The entries of `extra` put over those of `base`, one after another. -/
def extend (base extra : List (κ × ν)) : List (κ × ν) :=
  extra.foldl (fun entries e => insert e.1 e.2 entries) base

/-- A list of entries in any order, sorted; of equal keys the last counts. -/
def ofList (entries : List (κ × ν)) : List (κ × ν) :=
  extend [] entries

/-- Keys strictly increase. -/
def Sorted (entries : List (κ × ν)) : Prop :=
  entries.Pairwise fun a b => compare a.1 b.1 = .lt

@[simp] theorem get?_nil (k : κ) : get? k ([] : List (κ × ν)) = none := rfl

theorem sorted_nil : Sorted ([] : List (κ × ν)) := List.Pairwise.nil

/-- The entries of an insertion are the old ones and the new one. -/
theorem mem_insert {k : κ} {v : ν} {e : κ × ν} {entries : List (κ × ν)} :
    e ∈ insert k v entries → e = (k, v) ∨ e ∈ entries := by
  induction entries with
  | nil => simp [insert]
  | cons d rest ih =>
    obtain ⟨i, w⟩ := d
    rw [insert]
    split <;> simp only [List.mem_cons] <;> grind

theorem Sorted.erase {k : κ} {entries : List (κ × ν)} (h : Sorted entries) :
    Sorted (Entries.erase k entries) :=
  List.Pairwise.sublist List.filter_sublist h

/-- A key below every key of a list holds nothing there. -/
theorem get?_eq_none_of_lt {k : κ} {entries : List (κ × ν)}
    (h : ∀ e ∈ entries, compare k e.1 = .lt) : get? k entries = none := by
  induction entries with
  | nil => rfl
  | cons d rest ih =>
    have hd := h d (List.mem_cons_self ..)
    rw [get?, ih fun e he => h e (List.mem_cons_of_mem _ he)]
    simp [hd]

section LawfulEq

variable [Std.LawfulEqOrd κ]

@[simp] theorem compare_eq_eq_iff {a b : κ} : compare a b = .eq ↔ a = b :=
  ⟨Std.LawfulEqCmp.eq_of_compare, fun h => h ▸ Std.ReflCmp.compare_self⟩

/-- After an insertion the key holds the new value and every other key
what it held before. -/
theorem get?_insert (j k : κ) (v : ν) (entries : List (κ × ν)) :
    get? j (insert k v entries) = if compare j k = .eq then some v else get? j entries := by
  induction entries with
  | nil => simp [insert, get?]
  | cons e rest ih =>
    obtain ⟨i, w⟩ := e
    rw [insert]
    split
    · simp [get?]
    · rename_i h
      have hk : k = i := compare_eq_eq_iff.1 h
      subst hk
      by_cases hj : j = k <;> simp [get?, hj]
    · rename_i h
      have hne : k ≠ i := by
        intro hk
        rw [compare_eq_eq_iff.2 hk] at h
        simp at h
      by_cases hj : j = i
      · subst hj
        simp [get?, Ne.symm hne]
      · simp [get?, hj, ih]

/-- After a removal the key holds nothing and every other key what it held
before. -/
theorem get?_erase (j k : κ) (entries : List (κ × ν)) :
    get? j (erase k entries) = if compare j k = .eq then none else get? j entries := by
  induction entries with
  | nil => simp [erase]
  | cons e rest ih =>
    obtain ⟨i, w⟩ := e
    have ih' : get? j (rest.filter fun e => compare k e.1 != .eq)
        = if compare j k = .eq then none else get? j rest := ih
    by_cases hk : k = i
    · subst hk
      simp only [erase, List.filter_cons, Std.ReflCmp.compare_self, bne_self_eq_false,
        Bool.false_eq_true, if_false, ih']
      by_cases hj : j = k <;> simp [get?, hj]
    · have hk' : (compare k i != .eq) = true := by simp [hk]
      simp only [erase, List.filter_cons, hk', if_true, get?, ih']
      by_cases hj : j = i
      · subst hj
        simp [Ne.symm hk]
      · simp [hj]

/-- What is found under a key is an entry. -/
theorem mem_of_get? {entries : List (κ × ν)} {k : κ} {v : ν} (h : get? k entries = some v) :
    (k, v) ∈ entries := by
  induction entries with
  | nil => simp at h
  | cons d rest ih =>
    obtain ⟨i, w⟩ := d
    rw [get?] at h
    split at h
    · rename_i heq
      rw [compare_eq_eq_iff.1 heq]
      simp_all
    · exact List.mem_cons_of_mem _ (ih h)

/-- In a sorted list an entry is found under its key. -/
theorem Sorted.get?_of_mem {entries : List (κ × ν)} (h : Sorted entries) {k : κ} {v : ν}
    (hmem : (k, v) ∈ entries) : get? k entries = some v := by
  induction entries with
  | nil => simp at hmem
  | cons d rest ih =>
    obtain ⟨i, w⟩ := d
    rcases List.mem_cons.1 hmem with heq | hmem
    · obtain ⟨rfl, rfl⟩ := Prod.mk.inj heq
      simp [get?]
    · have hlt : compare i k = .lt := List.rel_of_pairwise_cons h hmem
      have hne : k ≠ i := by
        rintro rfl
        simp [Std.ReflCmp.compare_self] at hlt
      simp [get?, hne, ih (List.Pairwise.of_cons h) hmem]

end LawfulEq

section Lawful

variable [Std.TransOrd κ] [Std.LawfulEqOrd κ]

theorem Sorted.insert {k : κ} {v : ν} {entries : List (κ × ν)} (h : Sorted entries) :
    Sorted (Entries.insert k v entries) := by
  induction entries with
  | nil => simp [Entries.insert, Sorted]
  | cons d rest ih =>
    obtain ⟨i, w⟩ := d
    have hrest : Sorted rest := List.Pairwise.of_cons h
    have hhead : ∀ x ∈ rest, compare i x.1 = .lt := fun x hx => List.rel_of_pairwise_cons h hx
    rw [Entries.insert]
    split
    · rename_i hlt
      refine List.Pairwise.cons (fun a ha => ?_) h
      rcases List.mem_cons.1 ha with rfl | ha
      · exact hlt
      · exact Std.TransCmp.lt_trans hlt (hhead a ha)
    · rename_i heq
      have hk : k = i := compare_eq_eq_iff.1 heq
      subst hk
      exact List.Pairwise.cons hhead hrest
    · rename_i hgt
      refine List.Pairwise.cons (fun a ha => ?_) (ih hrest)
      rcases mem_insert ha with rfl | ha
      · exact Std.OrientedCmp.gt_iff_lt.1 hgt
      · exact hhead a ha

theorem Sorted.extend {base extra : List (κ × ν)} (h : Sorted base) :
    Sorted (Entries.extend base extra) := by
  induction extra generalizing base with
  | nil => exact h
  | cons e rest ih => exact ih h.insert

/-- Sorting gives a sorted list. -/
theorem sorted_ofList (entries : List (κ × ν)) : Sorted (ofList entries) :=
  sorted_nil.extend

/-- Sorted lists with the same look-ups are equal. -/
theorem Sorted.ext {a b : List (κ × ν)} (ha : Sorted a) (hb : Sorted b)
    (h : ∀ k, get? k a = get? k b) : a = b := by
  induction a generalizing b with
  | nil =>
    cases b with
    | nil => rfl
    | cons e rest =>
      have := h e.1
      simp [get?] at this
  | cons d as ih =>
    cases b with
    | nil =>
      have := h d.1
      simp [get?] at this
    | cons e bs =>
      obtain ⟨i, v⟩ := d
      obtain ⟨j, w⟩ := e
      have hhead : ∀ x ∈ as, compare i x.1 = .lt := fun x hx => List.rel_of_pairwise_cons ha hx
      have hhead' : ∀ x ∈ bs, compare j x.1 = .lt := fun x hx => List.rel_of_pairwise_cons hb hx
      have hij : i = j := by
        have h1 := Sorted.get?_of_mem ha (List.mem_cons_self (a := (i, v)) (l := as))
        have h2 := Sorted.get?_of_mem hb (List.mem_cons_self (a := (j, w)) (l := bs))
        rw [h] at h1
        rw [← h] at h2
        rcases List.mem_cons.1 (mem_of_get? h1) with heq | hmem
        · exact (Prod.mk.inj heq).1
        · rcases List.mem_cons.1 (mem_of_get? h2) with heq | hmem'
          · exact (Prod.mk.inj heq).1.symm
          · have l1 := hhead' _ hmem
            have l2 := hhead _ hmem'
            have := Std.TransCmp.lt_trans l1 l2
            simp [Std.ReflCmp.compare_self] at this
      subst hij
      have hvw : v = w := by
        have := h i
        simpa [get?] using this
      subst hvw
      congr 1
      refine ih (List.Pairwise.of_cons ha) (List.Pairwise.of_cons hb) fun k => ?_
      by_cases hk : k = i
      · subst hk
        rw [get?_eq_none_of_lt hhead, get?_eq_none_of_lt hhead']
      · have := h k
        simpa [get?, hk] using this

end Lawful

end Entries

/-- A finite function whose entries are listed in increasing key order. -/
structure Table (κ ν : Type) [Ord κ] where
  entries : List (κ × ν)
  sorted : Entries.Sorted entries

namespace Table

variable {κ ν : Type} [Ord κ]

/-- The table without entries. -/
def empty : Table κ ν := ⟨[], Entries.sorted_nil⟩

instance : EmptyCollection (Table κ ν) := ⟨empty⟩

instance : Inhabited (Table κ ν) := ⟨empty⟩

/-- The value at `k`. -/
def get? (t : Table κ ν) (k : κ) : Option ν := Entries.get? k t.entries

/-- Whether `k` has a value. -/
def contains (t : Table κ ν) (k : κ) : Bool := (t.get? k).isSome

/-- The keys, increasing. -/
def keys (t : Table κ ν) : List κ := t.entries.map (·.1)

/-- The values, in the order of their keys. -/
def values (t : Table κ ν) : List ν := t.entries.map (·.2)

/-- The number of entries. -/
def size (t : Table κ ν) : Nat := t.entries.length

/-- Whether there is no entry. -/
def isEmpty (t : Table κ ν) : Bool := t.entries.isEmpty

/-- The table without the entry at `k`. -/
def erase (t : Table κ ν) (k : κ) : Table κ ν := ⟨Entries.erase k t.entries, t.sorted.erase⟩

@[simp] theorem get?_empty (k : κ) : (∅ : Table κ ν).get? k = none := rfl

section LawfulEq

variable [Std.LawfulEqOrd κ]

theorem get?_erase (t : Table κ ν) (j k : κ) :
    (t.erase k).get? j = if compare j k = .eq then none else t.get? j :=
  Entries.get?_erase j k t.entries

/-- After a removal the key has no value, and every other key has one if it had. -/
theorem contains_erase (t : Table κ ν) (j k : κ) :
    (t.erase k).contains j = (compare j k != .eq && t.contains j) := by
  unfold contains
  rw [get?_erase]
  cases compare j k <;> rfl

/-- A key has a value exactly when it is listed. -/
theorem mem_keys_iff {t : Table κ ν} {k : κ} : k ∈ t.keys ↔ t.contains k := by
  constructor
  · intro h
    obtain ⟨⟨i, v⟩, hmem, rfl⟩ := List.mem_map.1 h
    simp [contains, get?, t.sorted.get?_of_mem hmem]
  · intro h
    obtain ⟨v, hv⟩ := Option.isSome_iff_exists.1 h
    exact List.mem_map.2 ⟨(k, v), Entries.mem_of_get? hv, rfl⟩

end LawfulEq

variable [Std.TransOrd κ] [Std.LawfulEqOrd κ]

/-- The table with `v` at `k`. -/
def insert (t : Table κ ν) (k : κ) (v : ν) : Table κ ν :=
  ⟨Entries.insert k v t.entries, t.sorted.insert⟩

/-- The table of a list of entries; of equal keys the last counts. -/
def ofList (entries : List (κ × ν)) : Table κ ν :=
  ⟨Entries.ofList entries, Entries.sorted_ofList entries⟩

theorem get?_insert (t : Table κ ν) (j k : κ) (v : ν) :
    (t.insert k v).get? j = if compare j k = .eq then some v else t.get? j :=
  Entries.get?_insert j k v t.entries

/-- After an insertion the key has a value, and so has every key that had one. -/
theorem contains_insert (t : Table κ ν) (j k : κ) (v : ν) :
    (t.insert k v).contains j = (compare j k == .eq || t.contains j) := by
  unfold contains
  rw [get?_insert]
  cases compare j k <;> rfl

/-- Tables with the same look-ups are equal. -/
theorem ext_get? {s t : Table κ ν} (h : ∀ k, s.get? k = t.get? k) : s = t := by
  obtain ⟨a, ha⟩ := s
  obtain ⟨b, hb⟩ := t
  have : a = b := ha.ext hb h
  subst this
  rfl

end Table

/-- A finite set of keys, listed in increasing order. -/
abbrev KeySet (κ : Type) [Ord κ] := Table κ Unit

end EntityBase
