import EntityBase.Table
import EntityBase.Ids

/-!
# Change sets — what a call did, key by key

A change set says of every key whether it was added, updated or removed
since the set was last emptied; keys that it does not hold are untouched.
The keys are kept in three buckets, one for each kind of change, and every
record moves a key from bucket to bucket.

The moves compose like the states they stand for: a key removed and then
added again is updated, and one that was added and then removed was never
there. No move leaves a key in two buckets (`Buckets.Disjoint`); a change
set holds its buckets together with that proof, so that a key has one mark.
-/

namespace EntityBase

/-- What happened to a key. -/
inductive Change where
  | added
  | updated
  | removed
deriving DecidableEq, Repr

/-- Keys by what happened to them. -/
structure Buckets (κ : Type) [Ord κ] where
  added : KeySet κ := ∅
  updated : KeySet κ := ∅
  removed : KeySet κ := ∅

namespace Buckets

variable {κ : Type} [Ord κ]

/-- The keys of one kind of change. -/
def of (b : Buckets κ) : Change → KeySet κ
  | .added => b.added
  | .updated => b.updated
  | .removed => b.removed

/-- No key is in two buckets. -/
structure Disjoint (b : Buckets κ) : Prop where
  added : ∀ k, b.added.contains k = true → b.updated.contains k = false ∧ b.removed.contains k = false
  updated : ∀ k, b.updated.contains k = true → b.removed.contains k = false

theorem disjoint_empty : Disjoint ({} : Buckets κ) := ⟨nofun, nofun⟩

variable [Std.TransOrd κ] [Std.LawfulEqOrd κ]

/-- Records that `k` was added. A key that was removed comes back as an
update. -/
def add (b : Buckets κ) (k : κ) : Buckets κ :=
  if b.removed.contains k then
    { b with removed := b.removed.erase k, updated := b.updated.insert k () }
  else if b.updated.contains k then b
  else { b with added := b.added.insert k () }

/-- Records that `k` was updated. A key that was added stays so. -/
def update (b : Buckets κ) (k : κ) : Buckets κ :=
  if b.added.contains k || b.removed.contains k then b
  else { b with updated := b.updated.insert k () }

/-- Records that `k` was removed. A key that was added drops out. -/
def remove (b : Buckets κ) (k : κ) : Buckets κ :=
  if b.added.contains k then { b with added := b.added.erase k }
  else { b with updated := b.updated.erase k, removed := b.removed.insert k () }

namespace Disjoint

variable {b : Buckets κ}

theorem add (h : b.Disjoint) (k : κ) : (b.add k).Disjoint := by
  obtain ⟨hadded, hupdated⟩ := h
  unfold Buckets.add
  split
  · constructor <;> simp only [Table.contains_insert, Table.contains_erase] <;> grind
  · split
    · exact ⟨hadded, hupdated⟩
    · constructor <;> simp only [Table.contains_insert] <;> grind

theorem update (h : b.Disjoint) (k : κ) : (b.update k).Disjoint := by
  obtain ⟨hadded, hupdated⟩ := h
  unfold Buckets.update
  split
  · exact ⟨hadded, hupdated⟩
  · constructor <;> simp only [Table.contains_insert] <;> grind

theorem remove (h : b.Disjoint) (k : κ) : (b.remove k).Disjoint := by
  obtain ⟨hadded, hupdated⟩ := h
  unfold Buckets.remove
  split
  · constructor <;> simp only [Table.contains_erase] <;> grind
  · constructor <;> simp only [Table.contains_insert, Table.contains_erase] <;> grind

end Disjoint

end Buckets

/-- The changes since the set was last emptied. -/
structure ChangeSet (κ : Type) [Ord κ] extends Buckets κ where
  disjoint : toBuckets.Disjoint

namespace ChangeSet

variable {κ : Type} [Ord κ]

/-- No change at all. -/
def empty : ChangeSet κ := ⟨{}, Buckets.disjoint_empty⟩

instance : EmptyCollection (ChangeSet κ) := ⟨empty⟩

/-- The mark of `k`, if anything happened to it. -/
def get? (c : ChangeSet κ) (k : κ) : Option Change :=
  if c.added.contains k then some .added
  else if c.updated.contains k then some .updated
  else if c.removed.contains k then some .removed
  else none

/-- Whether `k` bears the mark `m`. -/
def hasMark (c : ChangeSet κ) (m : Change) (k : κ) : Bool := (c.of m).contains k

/-- The keys with the mark `m`, increasing. -/
def keysMarked (c : ChangeSet κ) (m : Change) : List κ := (c.of m).keys

/-- The number of keys with the mark `m`. -/
def countMarked (c : ChangeSet κ) (m : Change) : Nat := (c.of m).size

/-- The number of keys with a mark. -/
def size (c : ChangeSet κ) : Nat := c.added.size + c.updated.size + c.removed.size

/-- Whether no key has a mark. -/
def isEmpty (c : ChangeSet κ) : Bool :=
  c.added.isEmpty && c.updated.isEmpty && c.removed.isEmpty

variable [Std.TransOrd κ] [Std.LawfulEqOrd κ]

/-- Records that `k` was added. -/
def add (c : ChangeSet κ) (k : κ) : ChangeSet κ := ⟨c.toBuckets.add k, c.disjoint.add k⟩

/-- Records that `k` was updated. -/
def update (c : ChangeSet κ) (k : κ) : ChangeSet κ := ⟨c.toBuckets.update k, c.disjoint.update k⟩

/-- Records that `k` was removed. -/
def remove (c : ChangeSet κ) (k : κ) : ChangeSet κ := ⟨c.toBuckets.remove k, c.disjoint.remove k⟩

end ChangeSet

/-- The two change sets of a store. -/
structure Changes where
  entities : ChangeSet EntityId := ∅
  components : ChangeSet ComponentId := ∅

namespace Changes

/-- No change at all. -/
def none : Changes := {}

instance : Inhabited Changes := ⟨none⟩

/-- Whether nothing changed. -/
def isEmpty (c : Changes) : Bool := c.entities.isEmpty && c.components.isEmpty

end Changes

end EntityBase
