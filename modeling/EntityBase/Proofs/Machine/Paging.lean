import EntityBase.Proofs.Machine.Questions
import EntityBase.Proofs.Selection.Stages

/-!
# Paging — what is read in order, page by page

The words `order` and `limit` only change settings; it is the reader that sorts what was
found and cuts a page out of it. So the pages that a select program gives for different
limits are pages of one sorted list, and that list is sorted stably by the keys of the
entities (`ordered_pages`).
-/

namespace EntityBase.Machine

variable {q : Question} {filter : Option (Filter Value)} {candidates : Option (List EntityId)}
  {below program : List Value} {env : Env} {s t : State} {sel : Selection} {store : Store}
  {levels : Nat}

/-- The words that ask for one page. -/
def pageWords (offset n : Nat) : List Value := [.list [.int offset, .int n], .quoted (.word "limit")]

theorem pageCount_natCast (k : Nat) : pageCount (.int k) = pure k := by
  have hint : (Value.int k).toInt? = some (k : Int) := rfl
  rw [pageCount, hint]
  exact if_pos (Int.natCast_nonneg k)

/-- **`limit`** asks for a page and does nothing else. -/
theorem comes_limit (hcomes : Comes levels env s program t) (hselection : t.selection = some sel)
    (hknows : t.frame.Knows "limit") (offset n : Nat) :
    Comes levels env s (program ++ pageWords offset n)
      { t with selection := some { sel with offset, limit := some n } } := by
  have hpair : Comes levels env s (program ++ [.list [.int offset, .int n]])
      { t with frame := { t.frame with items := .list [.int offset, .int n] :: t.frame.items } } :=
    (runValues_append hcomes).trans rfl
  have hlimit : runLimit { env with word := "limit", outer := s.frame :: env.outer }
      { t with frame := { t.frame with items := .list [.int offset, .int n] :: t.frame.items } }
      = (.ok (), { t with selection := some { sel with offset, limit := some n } }) := by
    obtain ⟨frame, store, selection, journal⟩ := t
    obtain rfl : selection = _ := hselection
    rw [runLimit]
    simp only [bind, Run.bind, Run.pop, pageCount_natCast]
    rfl
  have hword := runValues_selectWord hpair hknows rfl hlimit
  rw [List.append_assoc] at hword
  exact hword

/-- One page after another is read as one list. -/
theorem Question.list_append (q : Question) (store : Store) (ids ids' : List EntityId) :
    q.list store (ids ++ ids') = q.list store ids ++ q.list store ids' := List.flatMap_append

theorem Question.list_flatMap (q : Question) (store : Store) (is : List Nat)
    (ids : Nat → List EntityId) :
    q.list store (is.flatMap ids) = is.flatMap fun i => q.list store (ids i) :=
  List.flatMap_assoc

/-- What is read of one page of entities. -/
def Question.page (q : Question) (store : Store) (sorted : List EntityId) (offset n : Nat) :
    List Value :=
  q.list store ((sorted.drop offset).take n)

/-- How a select program with the settings `sel` gives the pages of sorted entities: a
page goes by positions, also if the program asks for it in the end; pages that follow one
another add up; and if those of one size reach far enough, they add up to the whole. -/
structure GivesPages (levels : Nat) (env : Env) (s t : State) (sel : Selection) (q : Question)
    (below program : List Value) (store : Store) (sorted : List EntityId) : Prop where
  whole : sel.offset = 0 → sel.limit = none →
    Gives levels env s t q below program (q.list store sorted)
  page : ∀ n, sel.limit = some n →
    Gives levels env s t q below program (q.page store sorted sel.offset n)
  page_asked : ∀ offset n,
    Gives levels env s t q below (program ++ pageWords offset n) (q.page store sorted offset n)
  page_append : ∀ offset n m, q.page store sorted offset n ++ q.page store sorted (offset + n) m
    = q.page store sorted offset (n + m)
  pages : ∀ n k, sorted.length ≤ k * n →
    (List.range k).flatMap (fun i => q.page store sorted (i * n) n) = q.list store sorted

/-- **A program that has asked for an order gives pages of what it finds, sorted.** -/
theorem givesPages {o : OrderBy}
    (hto : ComesTo levels env s program store sel q filter candidates below t)
    (horder : sel.order = some o) (hcount : sel.count = false) (hlimit : t.frame.Knows "limit") :
    GivesPages levels env s t sel q below program store
      (o.sort store (Selection.narrowed store candidates filter q.mask)) := by
  refine ⟨fun hzero hnone => ?_, fun n hn => ?_, fun offset n => ?_, fun offset n m => ?_,
    fun n k hk => ?_⟩
  · have hgives := gives_page hto hcount
    rw [Selection.page_eq_drop hnone, Selection.ordered_eq_sort horder, hzero] at hgives
    exact hgives
  · have hgives := gives_page hto hcount
    rw [Selection.page_eq_take hn, Selection.ordered_eq_sort horder] at hgives
    exact hgives
  · have hpaged := comes_limit hto.comes hto.selection_eq hlimit offset n
    have hgives := gives_page ⟨hpaged, hto.store_eq, rfl, hto.knows, hto.finds⟩ hcount
    have hordered (ids : List EntityId) :
        Selection.ordered { sel with offset, limit := some n } store ids = o.sort store ids :=
      Selection.ordered_eq_sort horder
    rw [Selection.page_eq_take rfl, hordered] at hgives
    exact hgives
  · exact (q.list_append ..).symm.trans (congrArg _ (Selection.page_append_page _ offset n m))
  · have hpages := Selection.flatMap_pages (o.sort store
      (Selection.narrowed store candidates filter q.mask)) n k
    rw [List.take_of_length_le hk] at hpages
    exact (q.list_flatMap ..).symm.trans (congrArg _ hpages)

/-- **Ordering and paging.** In a store of well-formed data an order sorts any entities
stably by their keys, in its direction and with the entities without a key behind the
others; by an attribute of no registered definition it does not sort at all. And every
select program that comes to a reader and has asked for this order gives pages of what
it finds, sorted in this way. -/
theorem ordered_pages (hs : store.WellFormed) (o : OrderBy) :
    (∀ d, o.definition? store = some d → ∀ ids, o.Sorts store d ids (o.sort store ids)) ∧
    (o.definition? store = none → ∀ ids, o.sort store ids = ids) ∧
    ∀ {levels env s program sel q filter candidates below t},
      ComesTo levels env s program store sel q filter candidates below t →
      sel.order = some o → sel.count = false → t.frame.Knows "limit" →
      GivesPages levels env s t sel q below program store
        (o.sort store (Selection.narrowed store candidates filter q.mask)) :=
  ⟨fun _ hdef => OrderBy.sorts hs hdef, OrderBy.sort_unregistered, givesPages⟩

/-- Four notes by size, the smallest first and the one without a size last, on two pages. -/
theorem ordered_pages_notes :
    let sized (e : EntityId) (n : Int) : Component :=
      { entity := e, defId := 1, attributes := Table.ofList [("size", .int n)] }
    let schema : Schema := { uri := "/note", properties := [{ name := "size", type := .integer }] }
    let calls : List Store.Call := [.register schema,
      .add (.many [.component (sized 1 7), .component { entity := 2, defId := 1 },
        .component (sized 3 2), .component (sized 4 7)]) {}]
    let store := (Store.empty true).afterAll calls
    let env : Env := { limits := {}, now := ⟨2024, 1, 1, 0, 0, 0, 0⟩ }
    let s : State := { store }
    let o : OrderBy := ⟨.of 1 "size", .ascending⟩
    let program : List Value := [.attr o.attr, .quoted (.word "order")]
    let page (offset n : Nat) : List Value := (selectRun 1 env s
      (program ++ pageWords offset n ++ [.quoted (.word "@eid")])).2.frame.items
    (∃ d, o.definition? store = some d ∧ o.Sorts store d [1, 2, 3, 4] [3, 1, 4, 2]) ∧
      page 0 2 = [.list [.int 3, .int 1]] ∧ page 2 2 = [.list [.int 4, .int 2]] := by
  intro sized schema calls store env s o program page
  have hcalls : ∀ call ∈ calls, call.WellFormed := by
    intro call hcall
    rcases List.mem_cons.1 hcall with rfl | hcall
    · intro p hp value hvalue
      obtain rfl := List.mem_singleton.1 hp
      cases hvalue
    · obtain rfl := List.mem_singleton.1 hcall
      refine ⟨fun c hc => ?_, fun e he => absurd he List.not_mem_nil,
        fun s hs => absurd hs List.not_mem_nil⟩
      have hcomponents : c ∈ [sized 1 7, { entity := 2, defId := 1 }, sized 3 2, sized 4 7] := hc
      simp only [List.mem_cons, List.not_mem_nil, or_false] at hcomponents
      rcases hcomponents with rfl | rfl | rfl | rfl
      · exact ⟨by decide, trivial, trivial⟩
      · exact ⟨by decide, trivial⟩
      · exact ⟨by decide, trivial, trivial⟩
      · exact ⟨by decide, trivial, trivial⟩
  have hs : store.WellFormed := (Store.kept_wellFormed.afterAll hcalls
    ⟨Store.consistent_empty true, Store.wellFormed_empty true⟩).2
  let ids : List EntityId := [1, 2, 3, 4]
  -- the places of their keys: of the third note, of the first and the fourth, and none
  let place (e : EntityId) : Nat := if e = 3 then 0 else if e = 2 then 2 else 1
  have hplace : (o.definition? store).any (fun d => decide (∀ x ∈ ids, ∀ y ∈ ids,
      decide (place x ≤ place y)
        = OrderBy.precedes o.direction (o.key? store d x) (o.key? store d y))) = true := by
    decide +kernel
  obtain ⟨d, hdef, hplace⟩ := (Option.any_eq_true _ _).1 hplace
  have hsorted : o.sort store ids = [3, 1, 4, 2] :=
    (OrderBy.sort_eq_mergeSort hdef (of_decide_eq_true hplace)).trans (by simp [ids, List.mergeSort, place])
  have hfound : Selection.narrowed store none none none = ids := by decide +kernel
  have hsorted' : o.sort store (Selection.narrowed store none none
      (Question.rows .entityIds none).mask) = [3, 1, 4, 2] :=
    (congrArg _ hfound).trans hsorted
  obtain ⟨hsorts, -, hpages⟩ := ordered_pages hs o
  have hgiven := @hpages 1 env s program { order := o } (.rows .entityIds none) none none []
    { s with frame := { words := Dictionary.selectScope }, selection := some { order := o } }
    ⟨rfl, rfl, rfl, rfl, [], rfl, [], rfl, rfl⟩ rfl rfl rfl
  refine ⟨?_, ?_, ?_⟩
  · have hsorts := hsorts d hdef ids
    rw [hsorted] at hsorts
    exact ⟨d, hdef, hsorts⟩
  · have hpage := hgiven.page_asked 0 2
    rw [hsorted'] at hpage
    exact congrArg (fun r => r.2.frame.items) hpage
  · have hpage := hgiven.page_asked 2 2
    rw [hsorted'] at hpage
    exact congrArg (fun r => r.2.frame.items) hpage

end EntityBase.Machine
