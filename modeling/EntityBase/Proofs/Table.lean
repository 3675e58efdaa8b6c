import EntityBase.Table

/-!
# Tables, by their look-ups

What a table holds is what its look-ups say. This file restates insertion
and removal with equality of keys in the place of a comparison, ties
membership among the entries to look-up, and follows a table through the
folds by which batches are planned and carried out.
-/

namespace EntityBase

namespace Entries

variable {κ ν : Type} [Ord κ]

/-- The entries of an extension come from the two lists. -/
theorem mem_extend {e : κ × ν} {extra base : List (κ × ν)} (h : e ∈ extend base extra) :
    e ∈ extra ∨ e ∈ base := by
  induction extra generalizing base with
  | nil => exact Or.inr h
  | cons d rest ih =>
    have h : e ∈ extend (insert d.1 d.2 base) rest := h
    rcases ih h with hrest | hinsert
    · exact Or.inl (List.mem_cons_of_mem _ hrest)
    · rcases mem_insert hinsert with rfl | hbase
      · exact Or.inl (List.mem_cons_self ..)
      · exact Or.inr hbase

theorem Sorted.filter {entries : List (κ × ν)} (h : Sorted entries) (p : κ × ν → Bool) :
    Sorted (entries.filter p) :=
  List.Pairwise.sublist List.filter_sublist h

/-- Whether a list is sorted is a matter of its keys. -/
theorem Sorted.map {μ : Type} {entries : List (κ × ν)} (h : Sorted entries) (f : ν → μ) :
    Sorted (entries.map fun e => (e.1, f e.2)) := by
  unfold Sorted at h ⊢
  rwa [List.pairwise_map]

variable [Std.LawfulEqOrd κ]

/-- **Of two insertions under one key, the second one counts.** -/
theorem insert_insert (k : κ) (v w : ν) (entries : List (κ × ν)) :
    insert k w (insert k v entries) = insert k w entries := by
  induction entries with
  | nil => simp [insert, Std.ReflCmp.compare_self]
  | cons e rest ih =>
    obtain ⟨i, u⟩ := e
    cases hk : compare k i <;> simp [insert, hk, Std.ReflCmp.compare_self, ih]

/-- A key is found in an extension exactly when one of the two lists has it. -/
theorem isSome_get?_extend (k : κ) (extra base : List (κ × ν)) :
    (get? k (extend base extra)).isSome ↔ (∃ v, (k, v) ∈ extra) ∨ (get? k base).isSome := by
  induction extra generalizing base with
  | nil => simp [extend]
  | cons e rest ih =>
    obtain ⟨i, w⟩ := e
    have hstep : extend base ((i, w) :: rest) = extend (insert i w base) rest := rfl
    rw [hstep, ih, get?_insert]
    by_cases hk : k = i
    · subst hk
      simp [Std.ReflCmp.compare_self]
    · simp [hk]

/-- A sorted list that is put over another one goes before it. -/
theorem Sorted.get?_extend {extra : List (κ × ν)} (h : Sorted extra) (base : List (κ × ν)) (k : κ) :
    get? k (Entries.extend base extra) = (get? k extra).or (get? k base) := by
  induction extra generalizing base with
  | nil => rfl
  | cons e rest ih =>
    obtain ⟨i, w⟩ := e
    have hstep : Entries.extend base ((i, w) :: rest)
        = Entries.extend (Entries.insert i w base) rest := rfl
    rw [hstep, ih (List.Pairwise.of_cons h), get?_insert]
    by_cases hk : k = i
    · subst hk
      -- the keys increase, so the rest does not replace the value
      have hnone : get? k rest = none :=
        get?_eq_none_of_lt fun e he => List.rel_of_pairwise_cons h he
      simp [get?, hnone]
    · simp [get?, hk]

/-- Leaving keys out leaves the others what they held. -/
theorem get?_filter (p : κ → Bool) (k : κ) (entries : List (κ × ν)) :
    get? k (entries.filter fun e => p e.1) = if p k then get? k entries else none := by
  induction entries with
  | nil => simp
  | cons e rest ih =>
    obtain ⟨i, w⟩ := e
    rw [List.filter_cons]
    by_cases hk : k = i
    · subst hk
      cases hp : p k <;> simp [get?, hp, ih]
    · cases hp : p i <;> simp [get?, hk, ih]

theorem get?_map {μ : Type} (f : ν → μ) (k : κ) (entries : List (κ × ν)) :
    get? k (entries.map fun e => (e.1, f e.2)) = (get? k entries).map f := by
  induction entries with
  | nil => rfl
  | cons e rest ih =>
    obtain ⟨i, w⟩ := e
    by_cases hk : k = i
    · subst hk
      simp [get?]
    · simp [get?, hk, ih]

section Trans

variable [Std.TransOrd κ]

/-- Entries in any order are sorted into the sorted list that has the same ones. -/
theorem Sorted.ofList_eq {entries sorted : List (κ × ν)} (h : Sorted sorted)
    (hmem : ∀ e, e ∈ entries ↔ e ∈ sorted) : ofList entries = sorted := by
  -- sorted lists are settled by their look-ups
  refine (sorted_ofList entries).ext h fun k => ?_
  cases hget : get? k (ofList entries) with
  | some v =>
    rcases mem_extend (mem_of_get? hget) with hv | hv
    · exact (h.get?_of_mem ((hmem _).1 hv)).symm
    · cases hv
  | none =>
    cases hsorted : get? k sorted with
    | none => rfl
    | some v =>
      have hfound := (isSome_get?_extend k entries []).2
        (Or.inl ⟨v, (hmem _).2 (mem_of_get? hsorted)⟩)
      have hget : get? k (Entries.extend [] entries) = none := hget
      rw [hget] at hfound
      cases hfound

end Trans

end Entries

namespace Table

variable {κ ν : Type} [Ord κ]

theorem contains_eq_true_iff {t : Table κ ν} {k : κ} :
    t.contains k = true ↔ ∃ v, t.get? k = some v := Option.isSome_iff_exists

theorem contains_eq_false_iff {t : Table κ ν} {k : κ} :
    t.contains k = false ↔ t.get? k = none := by
  simp [contains]

@[simp] theorem contains_empty (k : κ) : (∅ : Table κ ν).contains k = false := rfl

section LawfulEq

variable [Std.LawfulEqOrd κ]

@[simp] theorem get?_erase_self (t : Table κ ν) (k : κ) : (t.erase k).get? k = none := by
  rw [get?_erase, if_pos Std.ReflCmp.compare_self]

theorem get?_erase_of_ne (t : Table κ ν) {j k : κ} (h : j ≠ k) :
    (t.erase k).get? j = t.get? j := by
  rw [get?_erase, if_neg fun hc => h (Entries.compare_eq_eq_iff.1 hc)]

/-- A key has the value that its entry holds. -/
theorem mem_entries_iff {t : Table κ ν} {k : κ} {v : ν} :
    (k, v) ∈ t.entries ↔ t.get? k = some v :=
  ⟨t.sorted.get?_of_mem, Entries.mem_of_get?⟩

/-- No key is listed twice. -/
theorem nodup_keys (t : Table κ ν) : t.keys.Nodup := by
  refine List.pairwise_map.2 (List.Pairwise.imp (fun {a b} hlt => ?_) t.sorted)
  intro heq
  simp [heq, Std.ReflCmp.compare_self] at hlt

/-- Erasing keys one after another leaves the others what they held. -/
theorem get?_foldl_erase [DecidableEq κ] (keys : List κ) (t : Table κ ν) (j : κ) :
    (keys.foldl erase t).get? j = if j ∈ keys then none else t.get? j := by
  induction keys generalizing t with
  | nil => simp
  | cons k rest ih =>
    rw [List.foldl_cons, ih]
    by_cases hj : j = k
    · subst hj
      simp
    · simp [hj, get?_erase_of_ne]

end LawfulEq

variable [Std.TransOrd κ] [Std.LawfulEqOrd κ]

@[simp] theorem get?_insert_self (t : Table κ ν) (k : κ) (v : ν) :
    (t.insert k v).get? k = some v := by
  rw [get?_insert, if_pos Std.ReflCmp.compare_self]

theorem get?_insert_of_ne (t : Table κ ν) {j k : κ} (v : ν) (h : j ≠ k) :
    (t.insert k v).get? j = t.get? j := by
  rw [get?_insert, if_neg fun hc => h (Entries.compare_eq_eq_iff.1 hc)]

theorem insert_insert (t : Table κ ν) (k : κ) (v w : ν) :
    (t.insert k v).insert k w = t.insert k w := by
  refine ext_get? fun j => ?_
  exact congrArg (Entries.get? j) (Entries.insert_insert k v w t.entries)

/-- Entries that are inserted one after another are put over the table. -/
theorem entries_foldl_insert (extra : List (κ × ν)) (t : Table κ ν) :
    (extra.foldl (fun t e => t.insert e.1 e.2) t).entries = Entries.extend t.entries extra := by
  induction extra generalizing t with
  | nil => rfl
  | cons e rest ih => exact ih (t.insert e.1 e.2)

/-- A set of listed keys holds these and no others. -/
theorem contains_ofList_unit {keys : List κ} {k : κ} :
    (ofList (keys.map fun k => (k, ()))).contains k = true ↔ k ∈ keys := by
  have h := Entries.isSome_get?_extend k (keys.map fun k => (k, ())) []
  simp only [List.mem_map, Prod.mk.injEq, Entries.get?_nil, Option.isSome_none, Bool.false_eq_true,
    or_false] at h
  refine Iff.trans h ⟨?_, fun hk => ⟨(), k, hk, rfl, trivial⟩⟩
  rintro ⟨_, _, hk, rfl, _⟩
  exact hk

end Table

end EntityBase
