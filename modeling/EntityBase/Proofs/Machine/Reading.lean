import EntityBase.Proofs.Machine.Building
import EntityBase.Proofs.Machine.Sequence
import EntityBase.Proofs.Selection.Rows

/-!
# Readers — what a select program reads

A reader finds its mask and its filter on the stack, the mask on top, and
looks at every stored entity unless candidates lie below. A select program
that comes to a component reader in this way gives exactly the components
that mask and filter ask for (`component_readers_exact`), whatever it did
before.
-/

namespace EntityBase.Machine

variable {mask : Option Bitfield} {filter : Option (Filter Value)}
  {candidates : Option (List EntityId)} {below items : List Value} {env : Env} {s t u : State}
  {sel : Selection} {store : Store}

/-- A stack as a reader finds it: a mask and a filter, if they are given, on items of
which the top one is no candidate and would be taken for neither of them. -/
structure Presents (mask : Option Bitfield) (filter : Option (Filter Value))
    (below items : List Value) : Prop where
  items_eq : items = mask.toList.map .bitfield ++ filter.toList.map .filter ++ below
  no_candidates : ∀ v ∈ below.head?, candidates? v = none
  no_filter : filter = none → ∀ v ∈ below.head?, v.isOf .filter = false
  no_mask : mask = none → filter = none → ∀ v ∈ below.head?, v.isOf .bitfield = false

/-- The settings of a select program that ask for neither order nor page nor number. -/
structure Unpaged (sel : Selection) : Prop where
  order_eq : sel.order = none
  offset_eq : sel.offset = 0
  limit_eq : sel.limit = none
  count_eq : sel.count = false

/-! ## Taking what a reader asks for -/

/-- The mask on top, if there is one, and what lies below it. -/
def takeMask : List Value → Option Bitfield × List Value
  | .bitfield b :: rest => (some b, rest)
  | items => (none, items)

def takeFilter : List Value → Option (Filter Value) × List Value
  | .filter f :: rest => (some f, rest)
  | items => (none, items)

def takeCandidates : List Value → Option (List EntityId) × List Value
  | v :: rest =>
    match candidates? v with
    | some ids => (some ids, rest)
    | none => (none, v :: rest)
  | [] => (none, [])

theorem popMask?_take : Run.popMask? env s
    = (.ok (takeMask s.frame.items).1,
      { s with frame := { s.frame with items := (takeMask s.frame.items).2 } }) := by
  obtain ⟨⟨items, words⟩, store, selection, journal⟩ := s
  cases items with
  | nil => rfl
  | cons v rest => cases v <;> rfl

theorem popFilter?_take : Run.popFilter? env s
    = (.ok (takeFilter s.frame.items).1,
      { s with frame := { s.frame with items := (takeFilter s.frame.items).2 } }) := by
  obtain ⟨⟨items, words⟩, store, selection, journal⟩ := s
  cases items with
  | nil => rfl
  | cons v rest => cases v <;> rfl

theorem popCandidates?_take : Run.popCandidates? env s
    = (.ok (takeCandidates s.frame.items).1,
      { s with frame := { s.frame with items := (takeCandidates s.frame.items).2 } }) := by
  obtain ⟨⟨items, words⟩, store, selection, journal⟩ := s
  cases items with
  | nil => rfl
  | cons v rest =>
    unfold Run.popCandidates? takeCandidates
    dsimp only
    cases candidates? v <;> rfl

/-- A stack with a filter and candidates on top, each if it is there. -/
def FindsEntities (filter : Option (Filter Value)) (candidates : Option (List EntityId))
    (below items : List Value) : Prop :=
  ∃ rest, takeFilter items = (filter, rest) ∧ takeCandidates rest = (candidates, below)

/-- What is left when entities were found by filter and candidates. -/
theorem runFound {k : Option (Filter Value) → Option (List EntityId) → Run Unit}
    {r : Except Failure Unit × State} (hfinds : FindsEntities filter candidates below s.frame.items)
    (hk : k filter candidates env { s with frame := { s.frame with items := below } } = r) :
    (Run.popFilter? >>= fun f => Run.popCandidates? >>= k f) env s = r := by
  obtain ⟨rest, hfilter, hcandidates⟩ := hfinds
  rw [Run.bind_ok popFilter?_take, Run.bind_ok popCandidates?_take]
  dsimp only
  rw [hfilter, hcandidates]
  exact hk

/-- The state after a reader. -/
def State.answered (s : State) (sel : Selection) (items : List Value) : State :=
  { s with frame := { s.frame with items }, selection := some { sel with read := true } }

theorem State.selection_answered :
    (s.answered sel items).selection = some { sel with read := true } := rfl

/-- **A reader of rows** takes mask, filter and candidates and leaves what it reads. -/
theorem runRead_of_finds {rest : List Value} (reader : Reader)
    (hmask : takeMask s.frame.items = (mask, rest))
    (hfinds : FindsEntities filter candidates below rest) (hstore : s.store = some store)
    (hselection : s.selection = some sel) :
    runRead reader env s
      = (.ok (), s.answered sel (sel.readAll store reader candidates filter mask :: below)) := by
  obtain ⟨⟨items, words⟩, store', selection, journal⟩ := s
  obtain rfl : store' = _ := hstore
  obtain rfl : selection = _ := hselection
  rw [runRead, Run.bind_ok popMask?_take]
  dsimp only
  rw [hmask]
  exact runFound hfinds rfl

theorem takeMask_append {rest : List Value}
    (hrest : mask = none → ∀ v ∈ rest.head?, v.isOf .bitfield = false) :
    takeMask (mask.toList.map .bitfield ++ rest) = (mask, rest) := by
  cases hmask : mask with
  | some m => rfl
  | none =>
    cases rest with
    | nil => rfl
    | cons v rest =>
      have hv := hrest hmask v rfl
      cases v <;> first | rfl | cases hv

theorem takeFilter_append {rest : List Value}
    (hrest : filter = none → ∀ v ∈ rest.head?, v.isOf .filter = false) :
    takeFilter (filter.toList.map .filter ++ rest) = (filter, rest) := by
  cases hfilter : filter with
  | some f => rfl
  | none =>
    cases rest with
    | nil => rfl
    | cons v rest =>
      have hv := hrest hfilter v rfl
      cases v <;> first | rfl | cases hv

/-- A filter is not taken for a mask. -/
theorem Presents.not_bitfield (h : Presents mask filter below items) (hmask : mask = none) :
    ∀ v ∈ (filter.toList.map Value.filter ++ below).head?, v.isOf .bitfield = false := by
  cases filter with
  | none => exact h.no_mask hmask rfl
  | some f =>
    intro v hv
    obtain rfl := Option.some.inj hv
    rfl

/-- What is presented is found, and no candidates are. -/
theorem Presents.finds (h : Presents mask filter below items) :
    ∃ rest, takeMask items = (mask, rest) ∧ FindsEntities filter none below rest := by
  have hmask : takeMask items = (mask, filter.toList.map .filter ++ below) := by
    rw [h.items_eq, List.append_assoc]
    exact takeMask_append h.not_bitfield
  have hcandidates : takeCandidates below = (none, below) := by
    cases below with
    | nil => rfl
    | cons v rest => rw [takeCandidates, h.no_candidates v rfl]
  exact ⟨_, hmask, below, takeFilter_append h.no_filter, hcandidates⟩

/-! ## Component readers -/

/-- Without order and page, what is read of the entities one after another is read. -/
theorem readAll_unpaged {reader : Reader} {shown : Component → Value} (hsel : Unpaged sel)
    (hone : ∀ e, Selection.readOne store reader mask e
      = (Selection.taken store mask e).map shown) :
    sel.readAll store reader none filter mask
      = .list ((Selection.asked store mask filter).map shown) := by
  obtain ⟨order, offset, limit, count, read⟩ := sel
  obtain ⟨rfl, rfl, rfl, rfl⟩ := hsel
  rw [Selection.asked, List.map_flatMap]
  exact congrArg Value.list (congrArg (List.flatMap · _) (funext hone))

theorem readOne_components (e : EntityId) :
    Selection.readOne store .components mask e
      = (Selection.taken store mask e).map .component := by
  rw [Selection.readOne, Selection.taken, List.map_map]
  rfl

/-- The entity and the definition of a component, as a list. -/
def idPair (c : Component) : Value := .list [.int c.entity, .int c.defId]

theorem readOne_componentIds (hs : store.Aligned) (e : EntityId) :
    Selection.readOne store .componentIds mask e = (Selection.taken store mask e).map idPair := by
  rw [Selection.readOne, Selection.taken, List.map_map]
  refine List.map_congr_left fun row hrow => ?_
  have hid := Selection.id_of_mem_rows hs hrow
  have hentity : row.2.entity = e := congrArg ComponentId.entity hid
  have hdef : row.2.defId = row.1 := congrArg ComponentId.defId hid
  rw [Function.comp_apply, idPair, hentity, hdef]

/-! ## Select programs that end with a reader -/

/-- The state in which a select program begins: on a frame of its own, with the words
of select programs and fresh settings. -/
def State.selecting (s : State) : State :=
  { s with frame := { words := Dictionary.selectScope }, selection := some {} }

/-- The state after a select program that came to `t` and gives the value: the frame
and the settings of before, with the value on top. -/
def State.selected (s t : State) (v : Value) : State :=
  { t with frame := { s.frame with items := v :: s.frame.items }, selection := s.selection }

/-- The state with a select program on the entity set. -/
def State.withProgram (s : State) (program : List Value) : State :=
  { s with frame := { s.frame with items := .list program :: .entitySet :: s.frame.items } }

/-- A word of select programs at the end of a program runs if its first overload takes
what is on the stack. -/
theorem runValues_selectWord {runList : List Value → Run Flow} {program : List Value} {name : String}
    {w : SelectWord} {pattern : List Kind} {rest : List Word}
    (hrun : runValues runList program env s = (.ok .next, t))
    (hname : t.frame.words.named name = Dictionary.word pattern (.select w) :: rest)
    (haccepts : (Dictionary.word pattern (.select w)).accepts t.frame.items = true)
    (hword : runSelectWord w { env with word := name } t = (.ok (), u)) :
    runValues runList (program ++ [.quoted (.word name)]) env s = (.ok .next, u) := by
  have hfind : (overloads name (t.frame :: env.outer)).find? (fun w => w.accepts t.frame.items)
      = some ⟨pattern, .native (.select w)⟩ := by
    rw [overloads, List.flatMap_cons, hname]
    exact List.find?_cons_of_pos haccepts
  have hvalue : runValue runList (.quoted (.word name)) env t = (.ok .next, u) :=
    (runName_native (fun h => Native.noConfusion h) hfind).trans (Run.bind_ok hword)
  rw [runValues_append hrun, runValues_cons, hvalue]
  rfl

/-- A reader at the end of a program leaves what it reads on what lies below. -/
theorem runValues_reader {runList : List Value → Run Flow} {program : List Value} {name : String}
    {reader : Reader} (hrun : runValues runList program env s = (.ok .next, t))
    (hname : t.frame.words.named name = [Dictionary.word [] (.select (.read reader))])
    (hstore : t.store = some store) (hselection : t.selection = some sel)
    (hpresents : Presents mask filter below t.frame.items) :
    runValues runList (program ++ [.quoted (.word name)]) env s = (.ok .next, { t with
      frame := { t.frame with
        items := { sel with read := true }.readAll store reader none filter mask :: below }
      selection := some { sel with read := true } }) := by
  obtain ⟨rest, hmask, hfinds⟩ := hpresents.finds
  have hread : runRead reader { env with word := name } t
      = (.ok (), t.answered sel (sel.readAll store reader none filter mask :: below)) :=
    runRead_of_finds reader hmask hfinds hstore hselection
  exact runValues_selectWord hrun hname rfl hread

/-- A list that ends well on a frame of its own gives the items that it leaves. -/
theorem onFrame_ok {runList : List Value → Run Flow} {frame : Frame} {body : List Value} {flow : Flow}
    (h : runList body { env with outer := s.frame :: env.outer } { s with frame } = (.ok flow, t)) :
    onFrame runList frame body env s = (.ok t.frame.items, { t with frame := s.frame }) := by
  rw [onFrame, h]

/-- A select program that read something gives what it left. -/
theorem runSelect_of_read {levels : Nat} {body : List Value}
    (hrun : runValues (runList levels) body { env with outer := s.frame :: env.outer } s.selecting
      = (.ok .next, t)) (hselection : t.selection = some sel) (hread : sel.read = true) :
    runControl (runList (levels + 1)) .select env (s.withProgram body)
      = (.ok .next, s.selected t (selectResult sel.count t.frame.items)) := by
  have hframe : onFrame (runList (levels + 1)) { words := Dictionary.selectScope } body env
      { s with selection := some {} } = (.ok t.frame.items, { t with frame := s.frame }) :=
    onFrame_ok hrun
  have hitems : selectItems (runList (levels + 1)) body env { s with selection := some {} }
      = (.ok t.frame.items, { t with frame := s.frame }) := by
    rw [selectItems, Run.bind_ok hframe]
    obtain ⟨frame, store, selection, journal⟩ := t
    obtain ⟨order, offset, limit, count, read⟩ := sel
    obtain rfl : selection = _ := hselection
    obtain rfl : read = true := hread
    rfl
  have hselect : runSelect (runList (levels + 1)) body env s
      = (.ok (), s.selected t (selectResult sel.count t.frame.items)) := by
    rw [runSelect, hitems]
    obtain ⟨frame, store, selection, journal⟩ := t
    obtain rfl : selection = _ := hselection
    rfl
  exact Run.bind_ok hselect

/-- **Component readers are complete and exact.** Take any store that calls lead to
and any select program that comes, on that store, to a place where it presents an
optional mask and an optional filter and no candidates, has asked for neither order
nor page nor number, and still knows the component readers. Then there is one list
of components that

* holds the stored components that mask and filter ask for and nothing else,
* is in ascending order of entity and definition, so that none comes twice,
* is what the program gives if it goes on with `@c`, and
* has the ids that the program gives if it goes on with `@cid`. -/
theorem component_readers_exact (shadowing : Bool) (calls : List Store.Call) (levels : Nat)
    (program : List Value)
    (hrun : runValues (runList levels) program { env with outer := s.frame :: env.outer }
      s.selecting = (.ok .next, t))
    (hstore : t.store = some ((Store.empty shadowing).afterAll calls))
    (hpresents : Presents mask filter below t.frame.items)
    (hselection : t.selection = some sel) (hsel : Unpaged sel)
    (hcomponents : t.frame.words.named "@c" = Words.named Dictionary.selectScope "@c")
    (hids : t.frame.words.named "@cid" = Words.named Dictionary.selectScope "@cid") :
    let store := (Store.empty shadowing).afterAll calls
    ∃ found : List Component,
      (∀ c, c ∈ found ↔ store.component? c.id = some c ∧ Selection.Asks store mask filter c) ∧
      found.Pairwise (fun a b => compare a.id b.id = .lt) ∧
      runControl (runList (levels + 1)) .select env
          (s.withProgram (program ++ [.quoted (.word "@c")]))
        = (.ok .next, s.selected t
            (selectResult false (.list (found.map .component) :: below))) ∧
      runControl (runList (levels + 1)) .select env
          (s.withProgram (program ++ [.quoted (.word "@cid")]))
        = (.ok .next, s.selected t
            (selectResult false (.list (found.map idPair) :: below))) := by
  intro store
  have hs : store.Consistent :=
    Store.kept_consistent.afterAll (fun _ _ => trivial) (Store.consistent_empty shadowing)
  have hunpaged : Unpaged { sel with read := true } := ⟨hsel.1, hsel.2, hsel.3, hsel.4⟩
  -- what either reader leaves, the program gives
  have hgives : ∀ {name reader shown},
      t.frame.words.named name = [Dictionary.word [] (.select (.read reader))] →
      (∀ e, Selection.readOne store reader mask e = (Selection.taken store mask e).map shown) →
      runControl (runList (levels + 1)) .select env
          (s.withProgram (program ++ [.quoted (.word name)]))
        = (.ok .next, s.selected t (selectResult false
            (.list ((Selection.asked store mask filter).map shown) :: below))) := by
    intro name reader shown hname hone
    have hlist : Selection.readAll _ store reader none filter mask = _ :=
      readAll_unpaged hunpaged hone
    have hread := runValues_reader hrun hname hstore hselection hpresents
    rw [hlist] at hread
    have hselect := runSelect_of_read hread rfl rfl
    rw [hsel.count_eq] at hselect
    exact hselect
  exact ⟨Selection.asked store mask filter, fun c => Selection.mem_asked_iff hs.toAligned,
    Selection.pairwise_asked hs.toAligned mask filter, hgives hcomponents readOne_components,
    hgives hids (readOne_componentIds hs.toAligned)⟩

/-- Of three notes, the two of the text that the filter asks for are read, each with the
other components of its entity left out by the mask. -/
theorem component_readers_exact_notes :
    let note (e : EntityId) (text : String) : Item := .component
      { entity := e, defId := 1, attributes := Table.ofList [("text", .string text)] }
    let calls : List Store.Call := [.register { uri := "/note" }, .register { uri := "/tag" },
      .add (.many [note 1 "a", note 2 "b", .component { entity := 2, defId := 2 }, note 4 "b"]) {}]
    let store := (Store.empty true).afterAll calls
    let env : Env := { limits := {}, now := ⟨2024, 1, 1, 0, 0, 0, 0⟩ }
    let s : State := { store }
    let program : List Value :=
      [.attr (.of 1 "text"), .text "b", .quoted (.word "=="), .bitfield (.ofList [1])]
    let ids := runControl (runList 2) .select env
      (s.withProgram (program ++ [.quoted (.word "@cid")]))
    ids.2.frame.items.map Value.display = ["[[2 1] [4 1]]"] ∧
      ∃ found : List Component,
        (∀ c, c ∈ found ↔ store.component? c.id = some c ∧ Selection.Asks store
          (some (.ofList [1])) (some (.compare .eq (.of 1 "text") (.text "b"))) c) ∧
        ids.1 = .ok .next ∧ ids.2.frame.items = [.list (found.map idPair)] := by
  intro note calls store env s program ids
  let mask : Bitfield := .ofList [1]
  let filter : Filter Value := .compare .eq (.of 1 "text") (.text "b")
  let t : State := { s with
    frame := { items := [.bitfield mask, .filter filter], words := Dictionary.selectScope }
    selection := some {} }
  have hpresents : Presents (some mask) (some filter) [] t.frame.items :=
    ⟨rfl, by simp, by simp, by simp⟩
  have hrun : runValues (runList 1) program { env with outer := s.frame :: env.outer } s.selecting
      = (.ok .next, t) := rfl
  obtain ⟨found, hmem, -, -, hids⟩ := component_readers_exact true calls 1 program hrun rfl
    hpresents rfl ⟨rfl, rfl, rfl, rfl⟩ rfl rfl
  refine ⟨by decide +kernel, found, hmem, congrArg Prod.fst hids, ?_⟩
  exact congrArg (fun r => r.2.frame.items) hids

end EntityBase.Machine
