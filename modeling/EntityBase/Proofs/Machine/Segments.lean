import EntityBase.Proofs.Machine.Staging

/-!
# Several readers — what comes before the first empty list

A select program may read more than once and then gives the list of what its readers left. A
reader takes what lies below its filter for candidates if it is a list of them, and a list of
components is none, except for the empty one: that is a list of no candidates. So a reader
behind one that found nothing takes the empty list away and leaves an empty list in its place.
One such step is `comes_segment`, and a whole program gives the lists of its readers up to the
first empty one (`readers_up_to_first_empty`).
-/

namespace EntityBase.Machine

variable {levels : Nat} {env : Env} {s : State} {store : Store} {sel : Selection}
  {below before : List Value} {stack rs : List (List Component)}

/-! ## Segments -/

/-- A part of a select program: values that put a filter and a mask, and the reader of
components behind them. -/
structure Segment where
  values : List Value
  filter : Filter Value
  mask : Bitfield

namespace Segment

def program (g : Segment) : List Value := g.values ++ [.quoted (.word "@c")]

/-- What the reader asks. -/
def question (g : Segment) : Question := .rows .components (some g.mask)

/-- Whether the values put filter and mask in the select programs that begin in a state. -/
def Stands (g : Segment) (levels : Nat) (env : Env) (s : State) : Prop :=
  Puts levels env s s.selecting g.values (g.question.items ++ [.filter g.filter]) id

/-- The stored components that filter and mask ask for. -/
def found (g : Segment) (store : Store) : List Component :=
  Selection.asked store (some g.mask) (some g.filter)

/-- Any filter and any mask, as they are. -/
def literal (filter : Filter Value) (mask : Bitfield) : Segment :=
  ⟨[.filter filter, .bitfield mask], filter, mask⟩

theorem stands_literal (filter : Filter Value) (mask : Bitfield) :
    (literal filter mask).Stands levels env s := by
  rintro ⟨frame, store, selection, journal⟩ sel - - hselection
  obtain rfl : selection = some sel := hselection
  rfl

end Segment

/-! ## What a reader leaves on what others left -/

/-- A list of components. -/
def componentList (r : List Component) : Value := .list (r.map .component)

/-- What one more reader leaves on a stack of lists: its own list on top, unless the top one is
empty. -/
def leave (stack : List (List Component)) (r : List Component) : List (List Component) :=
  match stack with
  | [] :: _ => stack
  | _ => r :: stack

/-! ## One segment -/

theorem page_of_unpaged (hsel : Unpaged sel) (ids : List EntityId) : sel.page store ids = ids := by
  obtain ⟨order, offset, limit, count, read⟩ := sel
  obtain ⟨rfl, rfl, rfl, rfl⟩ := hsel
  rfl

/-- What the reader of a segment leaves among candidates. -/
theorem Segment.answer (g : Segment) (hsel : Unpaged sel) (ids : List EntityId) :
    g.question.answer store sel ids
      = componentList (ids.flatMap (Selection.taken store (some g.mask))) := by
  rw [Question.answer_list _ hsel.count_eq, page_of_unpaged hsel, componentList, List.map_flatMap]
  exact congrArg Value.list (congrArg (List.flatMap · ids) (funext readOne_components))

theorem Segment.finds (g : Segment) {items : List Value} {candidates : Option (List EntityId)}
    (hcandidates : takeCandidates items = (candidates, below)) :
    g.question.Finds (some g.filter) candidates below
      (g.question.items ++ [.filter g.filter] ++ items) := by
  rw [List.append_assoc]
  exact g.question.finds_filter g.filter hcandidates

/-- **One segment** leaves its answer among the candidates that it takes. -/
theorem comes_segment_candidates {g : Segment} {items : List Value}
    {candidates : Option (List EntityId)} (hg : g.Stands levels env s)
    (hstore : s.store = some store) (hsel : Unpaged sel)
    (hcandidates : takeCandidates items = (candidates, below))
    (hcomes : Comes levels env s before (s.selecting.puts items sel)) :
    Comes levels env s (before ++ g.program) (s.selecting.puts
      (componentList ((Selection.narrowed store candidates (some g.filter) (some g.mask)).flatMap
        (Selection.taken store (some g.mask))) :: below) { sel with read := true }) := by
  have hread := runValues_question (hg.comes hcomes) (q := g.question) rfl (g.finds hcandidates)
    hstore rfl
  rw [id_eq, g.answer hsel] at hread
  rw [Segment.program, ← List.append_assoc]
  exact hread

/-- **One segment on the lists of others** leaves its own list on top, unless the top one is
empty. -/
theorem comes_segment {g : Segment} (hg : g.Stands levels env s) (hstore : s.store = some store)
    (hsel : Unpaged sel)
    (hcomes : Comes levels env s before (s.selecting.puts (stack.map componentList) sel)) :
    Comes levels env s (before ++ g.program)
      (s.selecting.puts ((leave stack (g.found store)).map componentList) { sel with read := true }) := by
  match stack with
  | [] => exact comes_segment_candidates hg hstore hsel rfl hcomes
  | [] :: rest =>
    -- the empty list is read as no candidates
    have hnone : Selection.narrowed store (some []) (some g.filter) (some g.mask) = [] :=
      Selection.narrowed_eq store (some []) (some g.filter) (some g.mask)
    have hempty : takeCandidates (([] :: rest).map componentList)
        = (some [], rest.map componentList) := rfl
    have hrun := comes_segment_candidates hg hstore hsel hempty hcomes
    rw [hnone] at hrun
    exact hrun
  | (c :: r) :: rest => exact comes_segment_candidates hg hstore hsel rfl hcomes

/-! ## A whole program -/

/-- **The segments of a program one after another.** -/
theorem comes_segments {segments : List Segment} (hg : ∀ g ∈ segments, g.Stands levels env s)
    (hstore : s.store = some store) (hsel : Unpaged sel)
    (hcomes : Comes levels env s before (s.selecting.puts (stack.map componentList) sel)) :
    ∃ sel', Unpaged sel' ∧ (sel.read = true ∨ segments ≠ [] → sel'.read = true) ∧
      Comes levels env s (before ++ segments.flatMap Segment.program) (s.selecting.puts
        ((segments.foldl (fun stack g => leave stack (g.found store)) stack).map componentList)
        sel') := by
  induction segments generalizing before stack sel with
  | nil =>
    rw [List.flatMap_nil, List.append_nil]
    exact ⟨sel, hsel, fun h => h.resolve_right (· rfl), hcomes⟩
  | cons g rest ih =>
    obtain ⟨hfirst, hrest⟩ := List.forall_mem_cons.1 hg
    have hread : Unpaged { sel with read := true } := ⟨hsel.1, hsel.2, hsel.3, hsel.4⟩
    obtain ⟨sel', hsel', hstays, hcomes'⟩ := ih hrest hread (comes_segment hfirst hstore hsel hcomes)
    rw [List.append_assoc, ← List.flatMap_cons] at hcomes'
    exact ⟨sel', hsel', fun _ => hstays (.inl rfl), hcomes'⟩

/-- The lists up to the first empty one, that one included. -/
def upToEmpty : List (List Component) → List (List Component)
  | [] => []
  | [] :: _ => [[]]
  | r :: rest => r :: upToEmpty rest

theorem upToEmpty_cons {r : List Component} (hr : r ≠ []) :
    upToEmpty (r :: rs) = r :: upToEmpty rs := by
  rw [upToEmpty]
  exact hr

theorem upToEmpty_starts (rs : List (List Component)) : upToEmpty rs <+: rs := by
  induction rs using upToEmpty.induct with
  | case1 => exact List.prefix_rfl
  | case2 rest => exact (List.prefix_cons_inj _).2 List.nil_prefix
  | case3 r rest hr ih =>
    rw [upToEmpty_cons hr]
    exact (List.prefix_cons_inj _).2 ih

/-- **No list is missing** if none but the last one is empty, and only then. -/
theorem upToEmpty_eq_self_iff : upToEmpty rs = rs ↔ ∀ r ∈ rs.dropLast, r ≠ [] := by
  induction rs using upToEmpty.induct with
  | case1 => simp [upToEmpty]
  | case2 rest => cases rest <;> simp [upToEmpty]
  | case3 r rest hr ih =>
    rw [upToEmpty_cons hr, List.cons_inj_right, ih]
    cases rest with
    | nil => simp
    | cons r' rest =>
      exact ⟨fun h => List.forall_mem_cons.2 ⟨hr, h⟩, fun h => (List.forall_mem_cons.1 h).2⟩

theorem leave_of_head (r : List Component) (hstack : stack.head? ≠ some []) :
    leave stack r = r :: stack := by
  match stack with
  | [] => rfl
  | [] :: rest => exact (hstack rfl).elim
  | (c :: cs) :: rest => rfl

/-- On an empty list nothing more is left. -/
theorem foldl_leave_empty : rs.foldl leave ([] :: stack) = [] :: stack := by
  induction rs with
  | nil => rfl
  | cons r rest ih => exact ih

/-- **List after list, the stack grows up to the first empty one.** -/
theorem foldl_leave (hstack : stack.head? ≠ some []) :
    rs.foldl leave stack = (upToEmpty rs).reverse ++ stack := by
  induction rs using upToEmpty.induct generalizing stack with
  | case1 => rfl
  | case2 rest =>
    rw [List.foldl_cons, leave_of_head [] hstack, foldl_leave_empty]
    rfl
  | case3 r rest hr ih =>
    have hhead : (r :: stack).head? ≠ some [] := fun h => hr (Option.some.inj h)
    rw [List.foldl_cons, leave_of_head r hstack, ih hhead, upToEmpty_cons hr, List.reverse_cons,
      List.append_assoc]
    rfl

/-- What a select program gives that has left lists: the list if it is one, or else the list of
them. -/
def gathered : List (List Component) → Value
  | [r] => componentList r
  | rs => .list (rs.map componentList)

theorem selectResult_lists (rs : List (List Component)) :
    selectResult false (rs.reverse.map componentList) = gathered rs := by
  match rs with
  | [] => rfl
  | [r] => rfl
  | r :: r' :: rest =>
    have hlist : ∀ items : List Value, 2 ≤ items.length →
        selectResult false items = .list items.reverse := by
      intro items hlength
      match items with
      | v :: w :: items => simp [selectResult]
    rw [hlist _ (by simp), ← List.map_reverse, List.reverse_reverse]
    rfl

theorem gathered_of_two (hlength : 2 ≤ rs.length) : gathered rs = .list (rs.map componentList) := by
  match rs, hlength with
  | r :: r' :: rest, _ => rfl

theorem gathered_upToEmpty_singleton (r : List Component) :
    gathered (upToEmpty [r]) = componentList r := by
  cases r <;> rfl

/-- One list is not the list of several lists. -/
theorem componentList_ne (r : List Component) (hrs : rs ≠ []) :
    componentList r ≠ .list (rs.map componentList) := by
  intro h
  have hitems := Value.list.inj h
  match r, rs with
  | [], r' :: rest => cases hitems
  | c :: r, r' :: rest => cases (List.cons.inj hitems).1

/-- **All lists are given** if all of them are left. -/
theorem gathered_upToEmpty_iff (hlength : 2 ≤ rs.length) :
    gathered (upToEmpty rs) = .list (rs.map componentList) ↔ ∀ r ∈ rs.dropLast, r ≠ [] := by
  rw [← upToEmpty_eq_self_iff]
  refine ⟨fun h => (upToEmpty_starts rs).eq_of_length ?_, fun h => ?_⟩
  · match hleft : upToEmpty rs with
    | [] =>
      rw [hleft] at h
      have hnil : ([] : List Value) = rs.map componentList := Value.list.inj h
      rw [List.map_eq_nil_iff.1 hnil.symm]
    | [r] =>
      rw [hleft] at h
      exact (componentList_ne r (List.ne_nil_of_length_pos (by omega)) h).elim
    | r :: r' :: rest =>
      rw [hleft] at h
      simpa using congrArg List.length (Value.list.inj h)
  · rw [h]
    exact gathered_of_two hlength

/-- A select program gives a value and changes nothing else. -/
def SelectGives (levels : Nat) (env : Env) (s : State) (program : List Value) (v : Value) : Prop :=
  selectRun levels env s program = (.ok .next, s.selected s v)

theorem SelectGives.unique {program : List Value} {v w : Value}
    (hv : SelectGives levels env s program v) (hw : SelectGives levels env s program w) : v = w := by
  have hitems := congrArg (fun r => r.2.frame.items) (hv.symm.trans hw)
  exact (List.cons.inj hitems).1

/-- **A program of segments gives the lists of its readers up to the first empty one.** -/
theorem selectGives_segments {segments : List Segment} (hg : ∀ g ∈ segments, g.Stands levels env s)
    (hstore : s.store = some store) (hsegments : segments ≠ []) :
    SelectGives levels env s (segments.flatMap Segment.program)
      (gathered (upToEmpty (segments.map (·.found store)))) := by
  have hstart : Comes levels env s [] (s.selecting.puts ([].map componentList) {}) := rfl
  obtain ⟨sel, hsel, hread, hcomes⟩ := comes_segments hg hstore ⟨rfl, rfl, rfl, rfl⟩ hstart
  have hrun := runSelect_of_read hcomes rfl (hread (.inr hsegments))
  have hstack : segments.foldl (fun stack g => leave stack (g.found store)) []
      = (upToEmpty (segments.map (·.found store))).reverse := by
    have hfold : (segments.map (·.found store)).foldl leave []
        = (upToEmpty (segments.map (·.found store))).reverse ++ [] := foldl_leave (by simp)
    rwa [List.foldl_map, List.append_nil] at hfold
  rw [hstack, hsel.count_eq] at hrun
  have hgiven := selectResult_lists (upToEmpty (segments.map (·.found store)))
  exact hrun.trans (by rw [← hgiven]; rfl)

/-- A segment that is alone gives the list of its reader. -/
theorem selectGives_segment {g : Segment} (hg : g.Stands levels env s)
    (hstore : s.store = some store) :
    SelectGives levels env s g.program (componentList (g.found store)) := by
  have hgives := selectGives_segments (List.forall_mem_singleton.2 hg) hstore (List.cons_ne_nil g [])
  rw [List.flatMap_singleton, List.map_singleton, gathered_upToEmpty_singleton] at hgives
  exact hgives

/-- **Several readers give what each gives alone, up to the first empty list.** Let a select
program be a sequence of segments, each of which puts a filter and a mask and reads components.
Alone, each of them gives the list of the components that filter and mask ask for. Together
they give these lists in order as long as none is empty; behind an empty list nothing more is
given, and an empty list that is the first is not even put in a list. So two segments or more
give the lists that they give alone exactly if none of them but the last one finds nothing. -/
theorem readers_up_to_first_empty {segments : List Segment} (hstore : s.store = some store)
    (hg : ∀ g ∈ segments, g.Stands levels env s) (hsegments : segments ≠ []) :
    (∀ g ∈ segments, SelectGives levels env s g.program (componentList (g.found store))) ∧
    SelectGives levels env s (segments.flatMap Segment.program)
      (gathered (upToEmpty (segments.map (·.found store)))) ∧
    (2 ≤ segments.length →
      (SelectGives levels env s (segments.flatMap Segment.program)
        (.list (segments.map fun g => componentList (g.found store))) ↔
        ∀ g ∈ segments.dropLast, g.found store ≠ [])) := by
  have hwhole := selectGives_segments hg hstore hsegments
  refine ⟨fun g hmem => selectGives_segment (hg g hmem) hstore, hwhole, fun hlength => ?_⟩
  have hmany : 2 ≤ (segments.map (·.found store)).length := by simpa using hlength
  have hiff := gathered_upToEmpty_iff hmany
  rw [← List.map_dropLast, List.forall_mem_map, List.map_map] at hiff
  rw [← hiff]
  refine ⟨fun h => hwhole.unique h, fun h => ?_⟩
  rw [h] at hwhole
  exact hwhole

/-- Two readers give the notes of the one text and those of the other. -/
theorem readers_up_to_first_empty_notes :
    let note (e : EntityId) (text : String) : Item := .component
      { entity := e, defId := 1, attributes := Table.ofList [("text", .string text)] }
    let calls : List Store.Call :=
      [.register { uri := "/note" }, .add (.many [note 1 "a", note 2 "b", note 4 "b"]) {}]
    let store := (Store.empty true).afterAll calls
    let env : Env := { limits := {}, now := default }
    let s : State := { store }
    let notes (text : String) : Segment :=
      .literal (.compare .eq (.of 1 "text") (.text text)) (.ofList [1])
    let program := (notes "b").program ++ (notes "a").program
    SelectGives 1 env s program
        (.list [componentList ((notes "b").found store), componentList ((notes "a").found store)]) ∧
      ((notes "b").found store).map Component.id = [⟨2, 1⟩, ⟨4, 1⟩] ∧
      ((notes "a").found store).map Component.id = [⟨1, 1⟩] := by
  intro note calls store env s notes program
  have hg : ∀ g ∈ [notes "b", notes "a"], g.Stands 1 env s := by
    intro g hmem
    simp only [List.mem_cons, List.not_mem_nil, or_false] at hmem
    rcases hmem with rfl | rfl
    · exact Segment.stands_literal _ _
    · exact Segment.stands_literal _ _
  have hfound : ((notes "b").found store).isEmpty = false := by decide +kernel
  obtain ⟨-, -, hall⟩ := readers_up_to_first_empty rfl hg (List.cons_ne_nil _ _)
  refine ⟨(hall (by decide)).2 fun g hmem => ?_, by decide +kernel, by decide +kernel⟩
  obtain rfl := List.mem_singleton.1 hmem
  exact List.isEmpty_eq_false_iff.1 hfound

/-- **The list of a reader that finds nothing disappears.** Alone the two readers give an empty
list and the list of one note; together they give an empty list, and not the list of the two. -/
theorem empty_list_disappears :
    let note : Item := .component
      { entity := 1, defId := 1, attributes := Table.ofList [("size", .int 1)] }
    let store := (Store.empty true).afterAll [.register { uri := "/note" }, .add (.many [note]) {}]
    let env : Env := { limits := {}, now := default }
    let s : State := { store }
    let sized (n : Int) : Segment :=
      .literal (.compare .eq (.of 1 "size") (.int n)) (.ofList [1])
    ∃ found : List Component, found.map Component.id = [⟨1, 1⟩] ∧
      SelectGives 1 env s (sized 2).program (componentList []) ∧
      SelectGives 1 env s (sized 1).program (componentList found) ∧
      SelectGives 1 env s ((sized 2).program ++ (sized 1).program) (componentList []) ∧
      componentList [] ≠ .list [componentList [], componentList found] := by
  intro note store env s sized
  have hnone : (sized 2).found store = [] :=
    List.isEmpty_iff.1 (by decide +kernel)
  have hg (n : Int) : (sized n).Stands 1 env s := Segment.stands_literal _ _
  have halone (n : Int) := selectGives_segment (hg n) (rfl : s.store = some store)
  have hboth : SelectGives 1 env s ([sized 2, sized 1].flatMap Segment.program) _ :=
    selectGives_segments (List.forall_mem_cons.2 ⟨hg 2, List.forall_mem_singleton.2 (hg 1)⟩) rfl
      (List.cons_ne_nil _ _)
  rw [List.map_cons, hnone] at hboth
  refine ⟨(sized 1).found store, by decide +kernel, hnone ▸ halone 2, halone 1, hboth, ?_⟩
  exact componentList_ne [] (List.cons_ne_nil [] [(sized 1).found store])

end EntityBase.Machine
