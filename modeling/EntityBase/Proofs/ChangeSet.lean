import EntityBase.ChangeSet
import EntityBase.Proofs.Table

/-!
# Change sets — marks as differences

A record moves a key between the buckets of a change set. What it does to the
mark of that key depends on the mark alone (`markAdded`, `markUpdated`,
`markRemoved`), and no other key has its mark changed.

What a change set records of a key is read against two values of the key:
the one it had when the set was emptied, and the one it has now. `Net`
says when a mark tells their difference. It is stated over any type with
one value that stands for absence, so that the components of a store (an
optional row) and its entities (all rows of one entity) are two uses of it.

Each of the three rules for marks keeps `Net`, whatever the key went
through before; nothing later opens the rules again.
-/

namespace EntityBase.ChangeSet

/-! ## The rules for marks -/

/-- The mark of a key after it was added. -/
def markAdded : Option Change → Change
  | some .removed | some .updated => .updated
  | some .added | none => .added

/-- The mark of a key after it was updated. -/
def markUpdated : Option Change → Change
  | some c => c
  | none => .updated

/-- The mark of a key after it was removed. -/
def markRemoved : Option Change → Option Change
  | some .added => none
  | _ => some .removed

/-! ## One key -/

section Net

variable {α : Type} {absent p q r : α} {m : Option Change}

/-- The mark `m` tells what became of `p`, now that it is `q`: whether it came
or went exactly, and a value that stayed but differs is updated. -/
structure Net (absent p q : α) (m : Option Change) : Prop where
  added : m = some .added ↔ p = absent ∧ q ≠ absent
  removed : m = some .removed ↔ p ≠ absent ∧ q = absent
  updated : m = some .updated → p ≠ absent ∧ q ≠ absent
  unlike : p ≠ absent → q ≠ absent → p ≠ q → m = some .updated

/-- Nothing happened. -/
theorem Net.refl (absent p : α) : Net absent p p none := by
  constructor
  · simp
  · simp
  · simp
  · intro _ _ h
    exact absurd rfl h

/-- A value comes to where there is none. -/
theorem Net.add (h : Net absent p absent m) (hr : r ≠ absent) :
    Net absent p r (some (markAdded m)) := by
  obtain ⟨hadded, hremoved, hupdated, -⟩ := h
  -- of an absent value the mark says at most that it was removed
  have hunadded : m ≠ some .added := fun hm => (hadded.1 hm).2 rfl
  have hunupdated : m ≠ some .updated := fun hm => (hupdated hm).2 rfl
  by_cases hp : p = absent
  · have hm : m = none := by
      rcases m with _ | _ | _ | _
      · rfl
      · exact absurd rfl hunadded
      · exact absurd rfl hunupdated
      · exact absurd hp (hremoved.1 rfl).1
    subst hm
    constructor <;> simp [markAdded, hp, hr]
  -- it was there before, so its removal turns into an update
  · obtain rfl := hremoved.2 ⟨hp, rfl⟩
    constructor <;> simp [markAdded, hp, hr]

/-- A value takes the place of another one, or of itself. -/
theorem Net.update (h : Net absent p q m) (hq : q ≠ absent) (hr : r ≠ absent) :
    Net absent p r (some (markUpdated m)) := by
  obtain ⟨hadded, hremoved, hupdated, -⟩ := h
  have hunremoved : m ≠ some .removed := fun hm => hq (hremoved.1 hm).2
  by_cases hp : p = absent
  -- what came since the start stays added
  · obtain rfl := hadded.2 ⟨hp, hq⟩
    constructor <;> simp [markUpdated, hp, hr]
  · have hm : markUpdated m = .updated := by
      rcases m with _ | _ | _ | _
      · rfl
      · exact absurd (hadded.1 rfl).1 hp
      · rfl
      · exact absurd rfl hunremoved
    rw [hm]
    constructor <;> simp [hp, hr]

/-- A value goes. -/
theorem Net.remove (h : Net absent p q m) (hq : q ≠ absent) :
    Net absent p absent (markRemoved m) := by
  obtain ⟨hadded, hremoved, hupdated, -⟩ := h
  by_cases hp : p = absent
  -- what came since the start and goes again leaves no mark
  · obtain rfl := hadded.2 ⟨hp, hq⟩
    constructor <;> simp [markRemoved, hp]
  · have hm : markRemoved m = some .removed := by
      rcases m with _ | _ | _ | _
      · rfl
      · exact absurd (hadded.1 rfl).1 hp
      · rfl
      · rfl
    rw [hm]
    constructor <;> simp [hp]

end Net

/-! ## Whole sets -/

section Sets

variable {κ : Type} [Ord κ]

/-- **Marks are read off the buckets**: a key bears a mark exactly when it is in
the bucket of that mark. -/
theorem get?_eq_some_iff {c : ChangeSet κ} {m : Change} {k : κ} :
    c.get? k = some m ↔ (c.of m).contains k = true := by
  obtain ⟨hadded, hupdated⟩ := c.disjoint
  unfold get?
  cases m <;> simp only [Buckets.of] <;> grind

variable [Std.LawfulEqOrd κ]

/-- The keys with a mark are those that bear it. -/
theorem mem_keysMarked {c : ChangeSet κ} {m : Change} {k : κ} :
    k ∈ c.keysMarked m ↔ c.get? k = some m := by
  rw [keysMarked, Table.mem_keys_iff, get?_eq_some_iff]

variable [Std.TransOrd κ]

theorem get?_add_self (c : ChangeSet κ) (k : κ) :
    (c.add k).get? k = some (markAdded (c.get? k)) := by
  obtain ⟨hadded, hupdated⟩ := c.disjoint
  unfold get? add Buckets.add
  split
  · simp only [Table.contains_insert, Table.contains_erase, Std.ReflCmp.compare_self]
    grind [markAdded]
  · split
    · grind [markAdded]
    · simp only [Table.contains_insert, Std.ReflCmp.compare_self]
      grind [markAdded]

theorem get?_add_of_ne (c : ChangeSet κ) {j k : κ} (h : j ≠ k) :
    (c.add k).get? j = c.get? j := by
  have hcompare := mt Entries.compare_eq_eq_iff.1 h
  unfold get? add Buckets.add
  split
  · simp only [Table.contains_insert, Table.contains_erase]
    grind
  · split
    · rfl
    · simp only [Table.contains_insert]
      grind

theorem get?_update_self (c : ChangeSet κ) (k : κ) :
    (c.update k).get? k = some (markUpdated (c.get? k)) := by
  unfold get? update Buckets.update
  split
  · grind [markUpdated]
  · simp only [Table.contains_insert, Std.ReflCmp.compare_self]
    grind [markUpdated]

theorem get?_update_of_ne (c : ChangeSet κ) {j k : κ} (h : j ≠ k) :
    (c.update k).get? j = c.get? j := by
  have hcompare := mt Entries.compare_eq_eq_iff.1 h
  unfold get? update Buckets.update
  split
  · rfl
  · simp only [Table.contains_insert]
    grind

theorem get?_remove_self (c : ChangeSet κ) (k : κ) :
    (c.remove k).get? k = markRemoved (c.get? k) := by
  obtain ⟨hadded, hupdated⟩ := c.disjoint
  unfold get? remove Buckets.remove
  split
  · simp only [Table.contains_erase, Std.ReflCmp.compare_self]
    grind [markRemoved]
  · simp only [Table.contains_insert, Table.contains_erase, Std.ReflCmp.compare_self]
    grind [markRemoved]

theorem get?_remove_of_ne (c : ChangeSet κ) {j k : κ} (h : j ≠ k) :
    (c.remove k).get? j = c.get? j := by
  have hcompare := mt Entries.compare_eq_eq_iff.1 h
  unfold get? remove Buckets.remove
  split
  · simp only [Table.contains_erase]
    grind
  · simp only [Table.contains_insert, Table.contains_erase]
    grind

end Sets

end EntityBase.ChangeSet
