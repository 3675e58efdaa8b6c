import EntityBase.Proofs.Machine.Questions
import EntityBase.Proofs.Selection.Stages
import EntityBase.Proofs.Store.WellFormed

/-!
# Staging — filters that are applied before the reader

The word `!fil` applies a filter at once and leaves the ids of what it found as a list.
What comes next reads that list as candidates, since stored entities have ids that an
integer stands for. So a program may apply a filter first and read with another one, or
read with both of them joined: the results are the same (`filtering_in_stages`), and
order and page are the reader's either way.
-/

namespace EntityBase

/-- The id of a stored entity has 32 bits. -/
theorem Store.Consistent.entity_le {s : Store} {e : EntityId} (hs : s.Consistent)
    (hdata : s.WellFormed) (h : (s.shape? e).isSome = true) : e ≤ maxEntityId := by
  obtain ⟨d, hd⟩ := hs.isSome_entities_iff.1 h
  obtain ⟨c, hc⟩ := Option.isSome_iff_exists.1 hd
  have howner : c.entity = e := congrArg ComponentId.entity (hs.row _ c hc).keyed
  rw [← howner]
  exact (hdata.row _ c hc).owner

namespace Machine

variable {q : Question} {filter : Option (Filter Value)} {candidates : Option (List EntityId)}
  {below rest program values : List Value} {env : Env} {s t : State} {sel : Selection}
  {store : Store} {levels : Nat} {f g : Filter Value} {change : Selection → Selection}
  {ids : List EntityId}

/-! ## Ids as candidates -/

/-- The ids of entities as a list. -/
def idList (ids : List EntityId) : Value := .list (ids.map fun (e : EntityId) => .int e)

/-- A list of ids is read as these candidates, also if it is empty. -/
theorem candidates?_idList (hids : ∀ e ∈ ids, e ≤ maxEntityId) :
    candidates? (idList ids) = some ids := by
  change (ids.map fun (e : EntityId) => Value.int e).mapM candidate? = some ids
  induction ids with
  | nil => rfl
  | cons e rest ih =>
    have he : e ≤ maxEntityId := hids e List.mem_cons_self
    have hrange : (0 : Int) ≤ (e : Nat) ∧ ((e : Nat) : Int) ≤ maxEntityId :=
      ⟨Int.natCast_nonneg _, Int.ofNat_le.2 he⟩
    have hone : candidate? (.int e) = some e := if_pos hrange
    rw [List.map_cons, List.mapM_cons, hone, ih fun e he => hids e (List.mem_cons_of_mem _ he)]
    rfl

theorem takeCandidates_idList (hids : ∀ e ∈ ids, e ≤ maxEntityId) :
    takeCandidates (idList ids :: below) = (some ids, below) := by
  rw [takeCandidates, candidates?_idList hids]

namespace Question

/-- What presents a question on a stack: its mask or its attribute. -/
def items : Question → List Value
  | .rows _ mask => mask.toList.map .bitfield
  | .values a => [.attr a]

/-- A question is found on top of what is no mask. -/
theorem heads_items (q : Question) (hrest : takeMask rest = (none, rest)) :
    q.Heads rest (q.items ++ rest) := by
  cases q with
  | rows reader mask =>
    cases mask with
    | none => exact hrest
    | some m => rfl
  | values a => rfl

theorem finds_filter (q : Question) (f : Filter Value)
    (hcandidates : takeCandidates rest = (candidates, below)) :
    q.Finds (some f) candidates below (q.items ++ .filter f :: rest) :=
  ⟨_, q.heads_items rfl, rest, rfl, hcandidates⟩

theorem finds_idList (q : Question) (hids : ∀ e ∈ ids, e ≤ maxEntityId) :
    q.Finds none (some ids) below (q.items ++ idList ids :: below) :=
  ⟨_, q.heads_items rfl, _, rfl, takeCandidates_idList hids⟩

end Question

/-! ## Parts of a program -/

/-- Whether values put items on the stack of a select program and change its settings,
in the same way whatever lies below: so do literals, the words that name an attribute or
build a filter, and those of order and page. -/
def Puts (levels : Nat) (env : Env) (s t : State) (values items : List Value)
    (change : Selection → Selection) : Prop :=
  ∀ (u : State) (sel : Selection), u.frame.words = t.frame.words → u.store = t.store →
    u.selection = some sel →
    runValues (runList levels) values { env with outer := s.frame :: env.outer } u
      = (.ok .next, { u with
        frame := { u.frame with items := items ++ u.frame.items }
        selection := some (change sel) })

/-- The state of a select program with other items and settings. -/
def State.puts (t : State) (items : List Value) (sel : Selection) : State :=
  { t with frame := { t.frame with items }, selection := some sel }

theorem Puts.comes {items : List Value} (hputs : Puts levels env s t values items change)
    (hcomes : Comes levels env s program (t.puts below sel)) :
    Comes levels env s (program ++ values) (t.puts (items ++ below) (change sel)) :=
  (runValues_append hcomes).trans (hputs (t.puts below sel) sel rfl rfl rfl)

/-- **`!fil`** leaves the ids of what passes the filter. -/
theorem comes_narrow (hcomes : Comes levels env s program (t.puts (.filter f :: rest) sel))
    (hstore : t.store = some store) (hknows : t.frame.Knows "!fil")
    (hcandidates : takeCandidates rest = (candidates, below)) :
    Comes levels env s (program ++ [.quoted (.word "!fil")])
      (t.puts (idList (Selection.narrowed store candidates (some f) none) :: below) sel) := by
  refine runValues_selectWord hcomes hknows rfl (runFound ⟨rest, rfl, hcandidates⟩ ?_)
  obtain ⟨frame, store', selection, journal⟩ := t
  obtain rfl : store' = _ := hstore
  rfl

/-- **`and`** joins two filters. -/
theorem comes_and
    (hcomes : Comes levels env s program (t.puts (.filter g :: .filter f :: rest) sel))
    (hknows : t.frame.Knows "and") :
    Comes levels env s (program ++ [.quoted (.word "and")])
      (t.puts (.filter (f.and g) :: rest) sel) :=
  runValues_selectWord hcomes hknows rfl rfl

/-! ## Reading in stages -/

/-- The value that a select program gives when it has found entities for a question. -/
def given (q : Question) (store : Store) (sel : Selection) (below : List Value)
    (ids : List EntityId) : Value :=
  selectResult sel.count (q.answer store sel ids :: below)

theorem selectRun_puts {items : List Value} (hcomes : Comes levels env s program (t.puts items sel))
    (hstore : t.store = some store) (hknows : t.frame.Knows q.name)
    (hfinds : q.Finds filter candidates below items) :
    selectRun levels env s (program ++ [.quoted (.word q.name)]) = (.ok .next, s.selected t
      (given q store sel below (Selection.narrowed store candidates filter q.mask))) :=
  selectRun_question (t := t.puts items sel) ⟨hcomes, hstore, rfl, hknows, hfinds⟩

/-- **Filtering in stages.** Take any store that calls lead to and any select program
that comes on it to a filter and, below that, optional candidates. Let `second` put
another filter and `question` the mask or the attribute of a reader; both may also change
the settings. Then it makes no difference to the result

* whether the filter is applied with `!fil` before the second one is put, or the two are
  joined by `and`; the entities that are found pass both, and
* whether the filter is applied with `!fil` or left to the reader, if there is no second
  one.

What `!fil` leaves may be the empty list; a reader takes it for no candidates at all and
not for a lack of them. -/
theorem filtering_in_stages (shadowing : Bool) {calls : List Store.Call}
    (hcalls : ∀ call ∈ calls, call.WellFormed) {first second question : List Value}
    {change change' : Selection → Selection} (hfirst : Comes levels env s first t)
    (hstore : t.store = some ((Store.empty shadowing).afterAll calls))
    (hselection : t.selection = some sel) (hitems : t.frame.items = .filter f :: rest)
    (hcandidates : takeCandidates rest = (candidates, below))
    (hsecond : Puts levels env s t second [.filter g] change)
    (hquestion : Puts levels env s t question q.items change')
    (hknows : ∀ name ∈ ["!fil", "and", q.name], t.frame.Knows name) :
    let store := (Store.empty shadowing).afterAll calls
    let gives (program : List Value) (sel : Selection) (filter : Filter Value) : Prop :=
      selectRun levels env s (program ++ [.quoted (.word q.name)]) = (.ok .next, s.selected t
        (given q store sel below (Selection.narrowed store candidates (some filter) q.mask)))
    (gives (first ++ [.quoted (.word "!fil")] ++ second ++ question) (change' (change sel)) (f.and g) ∧
      gives (first ++ second ++ [.quoted (.word "and")] ++ question) (change' (change sel)) (f.and g)) ∧
    gives (first ++ [.quoted (.word "!fil")] ++ question) (change' sel) f ∧
      gives (first ++ question) (change' sel) f := by
  intro store gives
  obtain ⟨hs, hdata⟩ := Store.kept_wellFormed.afterAll hcalls
    ⟨Store.consistent_empty shadowing, Store.wellFormed_empty shadowing⟩
  have hids : ∀ e ∈ Selection.narrowed store candidates (some f) none, e ≤ maxEntityId :=
    fun e he => hs.entity_le hdata (Selection.stored_of_mem_narrowed he)
  have hreader : t.frame.Knows q.name := hknows _ (by simp)
  have hstart : t.puts (.filter f :: rest) sel = t := by
    unfold State.puts
    rw [← hitems, ← hselection]
  rw [← hstart] at hfirst
  have hnarrowed := comes_narrow hfirst hstore (hknows _ (by simp)) hcandidates
  have hjoined := comes_and (hsecond.comes hfirst) (hknows _ (by simp))
  refine ⟨⟨?_, ?_⟩, ?_, ?_⟩
  · have hrun := selectRun_puts (hquestion.comes (hsecond.comes hnarrowed)) hstore hreader
      (q.finds_filter g (takeCandidates_idList hids))
    rw [Selection.narrowed_narrowed] at hrun
    exact hrun
  · exact selectRun_puts (hquestion.comes hjoined) hstore hreader (q.finds_filter _ hcandidates)
  · have hrun := selectRun_puts (hquestion.comes hnarrowed) hstore hreader (q.finds_idList hids)
    rw [Selection.narrowed_narrowed] at hrun
    exact hrun
  · exact selectRun_puts (hquestion.comes hfirst) hstore hreader (q.finds_filter f hcandidates)

/-- Of three candidates in the order in which they are given, the notes of one text are
found first and then those of a small size among them, or both at once. -/
theorem filtering_in_stages_notes :
    let note (e : EntityId) (text : String) (size : Int) : Component :=
      { entity := e, defId := 1, attributes := Table.ofList [("size", .int size), ("text", .string text)] }
    let calls : List Store.Call := [.register { uri := "/note" },
      .add (.many [.component (note 1 "a" 1), .component (note 2 "b" 5), .component (note 4 "b" 2)]) {}]
    let store := (Store.empty true).afterAll calls
    let env : Env := { limits := {}, now := ⟨2024, 1, 1, 0, 0, 0, 0⟩ }
    let s : State := { store }
    let first : List Value := [.list [.int 4, .int 2, .int 1],
      .attr (.of 1 "text"), .text "b", .quoted (.word "==")]
    let second : List Value := [.attr (.of 1 "size"), .int 3, .quoted (.word "<")]
    let apply : List Value := [.quoted (.word "!fil")]
    let join : List Value := [.quoted (.word "and")]
    let asked : List Value := [.bitfield (.ofList [1])]
    let read : List Value := [.quoted (.word "@cid")]
    (selectRun 1 env s (first ++ apply ++ second ++ asked ++ read)).2.frame.items.map Value.display
        = ["[[4 1]]"] ∧
      selectRun 1 env s (first ++ apply ++ second ++ asked ++ read)
        = selectRun 1 env s (first ++ second ++ join ++ asked ++ read) ∧
      selectRun 1 env s (first ++ apply ++ asked ++ read)
        = selectRun 1 env s (first ++ asked ++ read) := by
  intro note calls store env s first second apply join asked read
  have hcalls : ∀ call ∈ calls, call.WellFormed := by
    intro call hcall
    rcases List.mem_cons.1 hcall with rfl | hcall
    · exact fun p hp => absurd hp List.not_mem_nil
    · obtain rfl := List.mem_singleton.1 hcall
      refine ⟨fun c hc => ?_, fun e he => absurd he List.not_mem_nil,
        fun s hs => absurd hs List.not_mem_nil⟩
      have hcomponents : c ∈ [note 1 "a" 1, note 2 "b" 5, note 4 "b" 2] := hc
      simp only [List.mem_cons, List.not_mem_nil, or_false] at hcomponents
      rcases hcomponents with rfl | rfl | rfl <;> exact ⟨by decide, trivial, trivial, trivial⟩
  let q : Question := .rows .componentIds (some (.ofList [1]))
  let text : Filter Value := .compare .eq (.of 1 "text") (.text "b")
  let size : Filter Value := .compare .lt (.of 1 "size") (.int 3)
  let t : State := { s with
    frame := { items := [.filter text, .list [.int 4, .int 2, .int 1]], words := Dictionary.selectScope }
    selection := some {} }
  have hsecond : Puts 1 env s t second [.filter size] id := by
    rintro ⟨⟨items, words⟩, store', selection, journal⟩ sel hwords - hselection
    obtain rfl : words = Dictionary.selectScope := hwords
    obtain rfl : selection = some sel := hselection
    rfl
  have hquestion : Puts 1 env s t asked q.items id := by
    rintro ⟨frame, store', selection, journal⟩ sel - - hselection
    obtain rfl : selection = some sel := hselection
    rfl
  have hfirst : Comes 1 env s first t := rfl
  have hcandidates : takeCandidates [.list [.int 4, .int 2, .int 1]] = (some [4, 2, 1], []) := rfl
  have hknows : ∀ name ∈ ["!fil", "and", q.name], t.frame.Knows name := by
    intro name hname
    simp only [List.mem_cons, List.not_mem_nil, or_false] at hname
    rcases hname with rfl | rfl | rfl <;> rfl
  obtain ⟨⟨hstaged, hjoined⟩, happlied, hleft⟩ := filtering_in_stages true hcalls hfirst rfl rfl rfl
    hcandidates hsecond hquestion hknows
  refine ⟨?_, hstaged.trans hjoined.symm, happlied.trans hleft.symm⟩
  decide +kernel

end Machine

end EntityBase
