import EntityBase.Proofs.Machine.Questions
import EntityBase.Proofs.Selection.Stages

/-!
# Counting — what stands in the place of a list

A select program that has asked for a number leaves an integer where it would have left
a list. For entities, their ids and the values of an attribute the integer is the length
of that list. The two component readers count the entities that they go through, and not
the components that they would have read: `count_of_question` says what either number is,
and `count_of_components_differs` shows an entity of two components.
-/

namespace EntityBase.Machine

variable {q : Question} {filter : Option (Filter Value)} {candidates : Option (List EntityId)}
  {below program counted : List Value} {env : Env} {s t : State} {sel : Selection} {store : Store}
  {levels : Nat}

/-! ## How much is read -/

namespace Question

variable {mask : Option Bitfield} {ids : List EntityId} {e : EntityId}

/-- Of stored entities one after another as many are read. -/
theorem length_list_entities (hstored : ∀ e ∈ ids, (store.shape? e).isSome = true) :
    ((rows .entities mask).list store ids).length = ids.length := by
  have hone : ∀ e ∈ ids, ((rows .entities mask).readOf store e).length = 1 := by
    intro e he
    obtain ⟨shape, hshape⟩ := Option.isSome_iff_exists.1 (hstored e he)
    simp [readOf, Selection.readOne, Store.entity?, hshape]
  rw [list, List.length_flatMap, List.map_congr_left hone]
  simp

theorem length_list_entityIds : ((rows .entityIds mask).list store ids).length = ids.length := by
  simp [list, readOf, Selection.readOne, List.length_flatMap]

/-- Components are read as many as the mask takes in of each entity. -/
theorem length_list_components : ((rows .components mask).list store ids).length
    = (ids.map fun e => (Selection.taken store mask e).length).sum := by
  simp [list, readOf, Selection.readOne, Selection.taken, List.length_flatMap]

theorem length_list_componentIds : ((rows .componentIds mask).list store ids).length
    = (ids.map fun e => (Selection.taken store mask e).length).sum := by
  simp [list, readOf, Selection.readOne, Selection.taken, List.length_flatMap]

end Question

/-! ## Asking for a number -/

/-- The state in which a select program has asked for a number. -/
def State.counting (t : State) : State :=
  { t with selection := t.selection.map fun sel => { sel with count := true } }

/-- **`count`** asks for a number and does nothing else. -/
theorem comes_count (hcomes : Comes levels env s program t) (hselection : t.selection = some sel)
    (hknows : t.frame.Knows "count") :
    Comes levels env s (program ++ [.quoted (.word "count")]) t.counting := by
  refine runValues_selectWord hcomes hknows rfl ?_
  obtain ⟨frame, store, selection, journal⟩ := t
  obtain rfl : selection = _ := hselection
  rfl

/-- **What is counted.** Take any store and any select program that comes on it to a
reader, and another one that comes to the same place with the one difference that it has
asked for a number. Going on with the reader, the first leaves a list and the second an
integer. The integer is the length of the list if entities, their ids or the values of an
attribute are read. If components or their ids are read, the integer is the number of
the entities that are found and on the page, whereas the list has one item for each
component that the mask takes in of each of them. -/
theorem count_of_question
    (hprogram : ComesTo levels env s program store sel q filter candidates below t)
    (hcounted : Comes levels env s counted t.counting) (hcount : sel.count = false) :
    let page := sel.page store (Selection.narrowed store candidates filter q.mask)
    ∃ (read : List Value) (n : Nat),
      selectRun levels env s (program ++ [.quoted (.word q.name)])
        = (.ok .next, s.selected t (selectResult false (.list read :: below))) ∧
      selectRun levels env s (counted ++ [.quoted (.word q.name)])
        = (.ok .next, s.selected t (selectResult true (.int n :: below))) ∧
      match q with
      | .rows .components mask | .rows .componentIds mask => n = page.length ∧
        read.length = (page.map fun e => (Selection.taken store mask e).length).sum
      | _ => n = read.length := by
  intro page
  have hcountedTo : ComesTo levels env s counted store { sel with count := true } q filter
      candidates below t.counting := by
    refine ⟨hcounted, hprogram.store_eq, ?_, hprogram.knows, hprogram.finds⟩
    rw [State.counting, hprogram.selection_eq]
    rfl
  have hnumber := selectRun_question hcountedTo
  rw [q.answer_number rfl] at hnumber
  refine ⟨q.list store page, q.number store page, gives_page hprogram hcount, hnumber, ?_⟩
  have hstored : ∀ e ∈ page, (store.shape? e).isSome = true := fun e he =>
    Selection.stored_of_mem_narrowed (Selection.mem_of_mem_page he)
  cases q with
  | rows reader mask =>
    cases reader with
    | entities => exact (Question.length_list_entities hstored).symm
    | entityIds => exact Question.length_list_entityIds.symm
    | components => exact ⟨rfl, Question.length_list_components⟩
    | componentIds => exact ⟨rfl, Question.length_list_componentIds⟩
  | values a => rfl

/-- Two notes and a tag, read by the ids of their components and counted. -/
theorem count_of_question_notes :
    let note (e : EntityId) : Component := { entity := e, defId := 1 }
    let calls : List Store.Call := [.register { uri := "/note" }, .register { uri := "/tag" },
      .add (.many [.component (note 1), .component (note 2),
        .component { entity := 2, defId := 2 }]) {}]
    let store := (Store.empty true).afterAll calls
    let env : Env := { limits := {}, now := ⟨2024, 1, 1, 0, 0, 0, 0⟩ }
    let s : State := { store }
    ∃ (read : List Value) (n : Nat),
      (selectRun 1 env s [.quoted (.word "@cid")]).2.frame.items = [.list read] ∧
      (selectRun 1 env s [.quoted (.word "count"), .quoted (.word "@cid")]).2.frame.items
        = [.int n] ∧
      n = 2 ∧ read.length = 3 := by
  intro note calls store env s
  let q : Question := .rows .componentIds none
  have hto : ComesTo 1 env s [] store {} q none none [] s.selecting :=
    ⟨rfl, rfl, rfl, rfl, [], rfl, [], rfl, rfl⟩
  obtain ⟨read, n, hread, hn, hnumber, hlength⟩ :=
    count_of_question hto (comes_count hto.comes rfl rfl) rfl
  have hsizes : (Selection.page {} store (Selection.narrowed store none none none)).length = 2 ∧
      ((Selection.page {} store (Selection.narrowed store none none none)).map fun e =>
        (Selection.taken store none e).length).sum = 3 := by
    decide +kernel
  exact ⟨read, n, congrArg (fun r => r.2.frame.items) hread,
    congrArg (fun r => r.2.frame.items) hn, hnumber.trans hsizes.1, hlength.trans hsizes.2⟩

/-- **Components are not counted**: of an entity with two components, the list of the
components and that of their ids have two items each, and the number is one. -/
theorem count_of_components_differs :
    let calls : List Store.Call := [.register { uri := "/note" }, .register { uri := "/tag" },
      .add (.many [.component { entity := 1, defId := 1 },
        .component { entity := 1, defId := 2 }]) {}]
    let store := (Store.empty true).afterAll calls
    let env : Env := { limits := {}, now := ⟨2024, 1, 1, 0, 0, 0, 0⟩ }
    let shown (program : List Value) : List String :=
      (selectRun 1 env { store } program).2.frame.items.map Value.display
    shown [.quoted (.word "@c")] = ["[(c 1:1 \x7b\x7d) (c 1:2 \x7b\x7d)]"] ∧
      shown [.quoted (.word "count"), .quoted (.word "@c")] = ["1"] ∧
      shown [.quoted (.word "@cid")] = ["[[1 1] [1 2]]"] ∧
      shown [.quoted (.word "count"), .quoted (.word "@cid")] = ["1"] := by
  decide +kernel

end EntityBase.Machine
