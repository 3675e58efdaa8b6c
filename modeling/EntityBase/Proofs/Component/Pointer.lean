import EntityBase.Component
import EntityBase.Proofs.Json.Pointer

/-!
# Pointers into components

A pointer into a component takes its first segment for the plain name of a field, while
a pointer into the fields as one stored value resolves the escapes of that segment as
of every other. So a component gives what its fields give at the pointer with the first
segment escaped once more, and all components give what their fields give only where the
first segment has no escape: a field whose name has a slash or a tilde is not found by the
pointer that names it (`first_segment_is_plain`).
-/

namespace EntityBase

open Json

variable {c : Component} {path s : List Char}

/-- A component with one field. -/
def Component.ofField (name : String) (value : Json) : Component where
  defId := 1
  attributes := ⟨[(name, value)], List.pairwise_singleton _ _⟩

namespace Component

theorem pointer?_ofList_slash (c : Component) (path : List Char) :
    c.pointer? (String.ofList ('/' :: path))
      = (c.attributes.get? (String.ofList (firstSegment path))).bind fun value =>
          value.pointer? (behind path) := by
  unfold pointer?
  rw [String.toList_ofList, List.dropWhile_cons_of_neg (by decide)]
  change (c.attributes.get? (String.ofList (firstSegment path))).bind
    (fun value => value.pointer? (path.drop (firstSegment path).length)) = _
  rw [drop_firstSegment]

theorem object_pointer?_slash (c : Component) (path : List Char) :
    c.object.pointer? ('/' :: path)
      = (c.attributes.get? (String.ofList (unescapeSegment (firstSegment path)))).bind fun value =>
          value.pointer? (behind path) := by
  rw [Json.pointer?_slash]
  rfl

/-- A component gives what its fields give with the first segment escaped once more. -/
theorem pointer?_eq_object (c : Component) (path : List Char) :
    c.pointer? (String.ofList ('/' :: path))
      = c.object.pointer? ('/' :: (escapeSegment (firstSegment path) ++ behind path)) := by
  obtain ⟨hfirst, hbehind⟩ := firstSegment_append
    (slash_notMem_escapeSegment (firstSegment path)) (behind_eq_nil_or path)
  rw [pointer?_ofList_slash, object_pointer?_slash, hfirst, hbehind, unescapeSegment_escapeSegment]

/-- **Components give what their fields give** at a pointer whose first segment stands for
itself, and only there. -/
theorem pointer?_eq_iff :
    (∀ c : Component, c.pointer? (String.ofList ('/' :: path)) = c.object.pointer? ('/' :: path)) ↔
      unescapeSegment (firstSegment path) = firstSegment path := by
  refine ⟨fun h => ?_, fun h c => ?_⟩
  · -- the component whose only field has the escaped name
    obtain ⟨value, hvalue⟩ := exists_pointer? path
    have hfield := h (ofField (String.ofList (firstSegment path)) value)
    rw [pointer?_ofList_slash, object_pointer?_slash] at hfield
    by_cases hsame : unescapeSegment (firstSegment path) = firstSegment path
    · exact hsame
    have hother : String.ofList (unescapeSegment (firstSegment path))
        ≠ String.ofList (firstSegment path) := fun heq => hsame (String.ofList_injective heq)
    refine (hvalue ?_).elim
    simpa [ofField, Table.get?, Entries.get?, hother] using hfield
  · rw [pointer?_ofList_slash, object_pointer?_slash, h]

/-- The pointer that names the end of a path of names leads there in every component, if
there is nothing to escape in the first name. -/
theorem pointer?_pointerTo_iff (key : String) (names : List String) :
    (∀ c : Component,
      c.pointer? (String.ofList (pointerTo (key :: names))) = c.object.at? (key :: names)) ↔
      '~' ∉ key.toList ∧ '/' ∉ key.toList := by
  simp only [← pointer?_pointerTo]
  rw [pointerTo_cons, pointer?_eq_iff, (firstSegment_pointerTo key names).1,
    unescapeSegment_escapeSegment, eq_comm, escapeSegment_eq_self_iff]

/-- **The first segment of a pointer into a component is not unescaped.** Every component
gives at a pointer what its fields give at the pointer with the first segment escaped once
more. All components give what their fields give exactly at the pointers whose first segment
has no escape, and the pointer to a path of names leads to its end in all components exactly
if the first of them, the name of the field, has neither a tilde nor a slash. -/
theorem first_segment_is_plain (path : List Char) (key : String) (names : List String) :
    (∀ c : Component, c.pointer? (String.ofList ('/' :: path))
      = c.object.pointer? ('/' :: (escapeSegment (firstSegment path) ++ behind path))) ∧
    ((∀ c : Component, c.pointer? (String.ofList ('/' :: path)) = c.object.pointer? ('/' :: path))
      ↔ ¬ ['~', '0'] <:+: firstSegment path ∧ ¬ ['~', '1'] <:+: firstSegment path) ∧
    ((∀ c : Component,
      c.pointer? (String.ofList (pointerTo (key :: names))) = c.object.at? (key :: names))
      ↔ '~' ∉ key.toList ∧ '/' ∉ key.toList) :=
  ⟨fun c => pointer?_eq_object c path, pointer?_eq_iff.trans unescapeSegment_eq_self_iff,
    pointer?_pointerTo_iff key names⟩

/-- The fields `a/b` and `m~n` are not found by the pointers that name them, and their
values are not what these pointers name in the fields. -/
theorem pointer_misses_escaped_field :
    let c := ofField "a/b" (.int 1)
    let d := ofField "m~n" (.object [("x/y", .int 2)])
    c.pointer? "/a~1b" = none ∧ c.object.pointer? "/a~1b".toList = some (.int 1) ∧
      d.pointer? "/m~0n/x~1y" = none ∧
      d.object.pointer? "/m~0n/x~1y".toList = some (.int 2) := by
  refine ⟨?_, ?_, ?_, ?_⟩ <;> rfl

end Component

end EntityBase
