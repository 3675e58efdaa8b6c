import EntityBase.Proofs.Component.Pointer
import EntityBase.Proofs.Table

/-!
# Fields of components — set by name, read by pointer

A field is set under its plain name, and what reads it is a pointer. So a pointer has a
target, which is the name of a field and a pointer into its value; the value that was set is
seen by the pointers whose target has the name (`pointer?_setField_of_target`), and by no
others. A name is its own target unless a slash or a number sign stands in front, and then
its target has another name (`target_of_isPlainName`, `target_ne`).
-/

namespace EntityBase.Component

open Json

variable {c : Component} {name pointer : String} {value : Json} {path : List Char}

/-- The component with another value in a field. -/
def setField (c : Component) (name : String) (value : Json) : Component :=
  { c with attributes := c.attributes.insert name value }

theorem setField_setField (c : Component) (name : String) (value other : Json) :
    (c.setField name value).setField name other = c.setField name other := by
  simp only [setField, Table.insert_insert]

/-! ## What a pointer reads -/

/-- A pointer without the number signs in front. -/
def unsigned (pointer : String) : List Char := pointer.toList.dropWhile (· == '#')

/-- The field that a pointer reads, and the pointer into its value. -/
def target (pointer : String) : String × List Char :=
  match unsigned pointer with
  | '/' :: path => (String.ofList (firstSegment path), behind path)
  | name => (String.ofList name, [])

theorem target_of_slash (h : unsigned pointer = '/' :: path) :
    target pointer = (String.ofList (firstSegment path), behind path) := by
  rw [target, h]
  rfl

theorem target_of_name (h : ∀ path, unsigned pointer ≠ '/' :: path) :
    target pointer = (String.ofList (unsigned pointer), []) := by
  unfold target
  split
  · rename_i path hpath
    exact (h path hpath).elim
  · rfl

/-- **A component gives what the target has.** -/
theorem pointer?_eq_target (c : Component) (pointer : String) :
    c.pointer? pointer
      = (c.attributes.get? (target pointer).1).bind fun value => value.pointer? (target pointer).2 := by
  by_cases hslash : ∃ path, unsigned pointer = '/' :: path
  · obtain ⟨path, hpath⟩ := hslash
    have hstep : c.pointer? pointer = (c.attributes.get? (String.ofList (firstSegment path))).bind
        fun value => value.pointer? (path.drop (firstSegment path).length) := by
      unfold pointer?
      rw [show pointer.toList.dropWhile (· == '#') = '/' :: path from hpath]
      rfl
    rw [hstep, target_of_slash hpath, drop_firstSegment]
  · have hname : ∀ path, unsigned pointer ≠ '/' :: path := fun path hpath => hslash ⟨path, hpath⟩
    rw [target_of_name hname]
    unfold pointer?
    split
    · rename_i path hpath
      exact (hname path hpath).elim
    · exact (Option.bind_fun_some _).symm

/-- **What was set is seen** by the pointers to the field. -/
theorem pointer?_setField_of_target (c : Component) (value : Json) (h : (target pointer).1 = name) :
    (c.setField name value).pointer? pointer = value.pointer? (target pointer).2 := by
  rw [pointer?_eq_target, h, setField, Table.get?_insert_self, Option.bind_some]

/-- The other pointers see what they saw. -/
theorem pointer?_setField_of_ne (c : Component) (value : Json) (h : (target pointer).1 ≠ name) :
    (c.setField name value).pointer? pointer = c.pointer? pointer := by
  rw [pointer?_eq_target, pointer?_eq_target, setField, Table.get?_insert_of_ne _ _ h]

/-! ## Names as pointers -/

/-- Neither a slash nor a number sign stands in front. -/
def IsPlainName (name : String) : Prop := ∀ c rest, name.toList = c :: rest → c ≠ '/' ∧ c ≠ '#'

/-- **A plain name is its own target.** -/
theorem target_of_isPlainName (h : IsPlainName name) : target name = (name, []) := by
  have hunsigned : unsigned name = name.toList := by
    unfold unsigned
    cases hname : name.toList with
    | nil => rfl
    | cons c rest => exact List.dropWhile_cons_of_neg (by simpa using (h c rest hname).2)
  rw [target_of_name fun path hpath => (h '/' path (hunsigned.symm.trans hpath)).1 rfl, hunsigned,
    String.ofList_toList]

theorem length_target_le (pointer : String) :
    (target pointer).1.toList.length ≤ (unsigned pointer).length := by
  by_cases hslash : ∃ path, unsigned pointer = '/' :: path
  · obtain ⟨path, hpath⟩ := hslash
    rw [target_of_slash hpath, hpath, String.toList_ofList]
    exact Nat.le_succ_of_le (List.takeWhile_sublist _).length_le
  · rw [target_of_name fun path hpath => hslash ⟨path, hpath⟩]
    exact Nat.le_of_eq (congrArg List.length String.toList_ofList)

/-- **Any other name has a shorter target.** -/
theorem length_target_lt (h : ¬ IsPlainName name) :
    (target name).1.toList.length < name.toList.length := by
  cases hname : name.toList with
  | nil => exact (h fun c rest hfront => nomatch hname.symm.trans hfront).elim
  | cons c rest =>
    by_cases hsign : c = '#'
    · have hle := length_target_le name
      rw [unsigned, hname, List.dropWhile_cons_of_pos (by simpa using hsign)] at hle
      exact Nat.lt_succ_of_le (Nat.le_trans hle (List.dropWhile_sublist _).length_le)
    by_cases hslash : c = '/'
    · have hpath : unsigned name = '/' :: rest := by
        rw [unsigned, hname, hslash, List.dropWhile_cons_of_neg (by decide)]
      rw [target_of_slash hpath, String.toList_ofList]
      exact Nat.lt_succ_of_le (List.takeWhile_sublist _).length_le
    · refine (h fun d more hfront => ?_).elim
      obtain ⟨rfl, -⟩ := List.cons.inj (hname.symm.trans hfront)
      exact ⟨hslash, hsign⟩

theorem target_ne (h : ¬ IsPlainName name) : (target name).1 ≠ name := by
  intro heq
  have hlt := length_target_lt h
  rw [heq] at hlt
  exact Nat.lt_irrefl _ hlt

end EntityBase.Component
