import EntityBase.Proofs.Machine.Dispatch
import EntityBase.Proofs.Machine.Sequence
import EntityBase.Proofs.Selection.Integers

/-!
# Comparing integers — what is compared instead

Integers of 64 bits are compared in four places: by the words of comparison, by the
leaves of filters, by the order of entities and by the set operations. Each of them
compares doubles, and with them what is left of the integers in doubles. That is the
integer itself up to `2 ^ 53`, and the order of integers is kept; but from there on
different integers come together, and then they are equal everywhere. So some integers
are compared exactly if no two of them come together, and only then.
-/

namespace EntityBase

open Binary64 Value

/-- The word of a set operation. -/
def SetOp.text : SetOp → String
  | .union => "union"
  | .intersect => "intersect"
  | .diff => "diff"

namespace Machine

variable {name : String} {env : Env} {s : State} {rest : List Value}
  {runList : List Value → Run Flow} {cmp : Int → Int → Ordering} {S : Set Int} {a b : Int}
  {ns ms : List Int}

/-- No word of the frames takes what is on the stack in front of the dictionary. -/
def Unhidden (name : String) (env : Env) (s : State) : Prop :=
  ∀ f ∈ s.frame :: env.outer, ∀ w ∈ f.words.named name, w.accepts s.frame.items = false

theorem unhidden_of_bare (houter : env.outer = []) (hwords : s.frame.words = []) :
    Unhidden name env s := by
  intro f hf w hw
  rw [houter, List.mem_singleton] at hf
  rw [hf, hwords] at hw
  cases hw

/-- The state with other items. -/
def State.withItems (s : State) (items : List Value) : State :=
  { s with frame := { s.frame with items := items } }

/-- A name that nothing hides runs the first fitting word of the dictionary. -/
theorem find?_overloads_of_unhidden (h : Unhidden name env s) :
    (overloads name (s.frame :: env.outer)).find? (fun w => w.accepts s.frame.items)
      = (Dictionary.builtin name).find? fun w => w.accepts s.frame.items := by
  have hframes : ((s.frame :: env.outer).flatMap fun f => f.words.named name).find?
      (fun w => w.accepts s.frame.items) = none := by
    refine List.find?_eq_none.2 fun w hw => ?_
    obtain ⟨f, hf, hw⟩ := List.mem_flatMap.1 hw
    rw [h f hf w hw]
    exact Bool.false_ne_true
  rw [overloads, List.find?_append, hframes, Option.none_or]

theorem find?_of_unhidden {w : Word} {words : List Word} (h : Unhidden name env s)
    (hwords : Dictionary.builtin name = w :: words) (hw : w.accepts s.frame.items = true) :
    (overloads name (s.frame :: env.outer)).find? (fun w => w.accepts s.frame.items) = some w := by
  rw [find?_overloads_of_unhidden h, hwords]
  exact List.find?_cons_of_pos hw

/-! ## Items -/

theorem pop_eq {v : Value} (hitems : s.frame.items = v :: rest) :
    Run.pop env s = (.ok v, s.withItems rest) := by
  obtain ⟨⟨items, words⟩, store, selection, journal⟩ := s
  obtain rfl : items = v :: rest := hitems
  rfl

theorem popAs_eq {α : Type} {v : Value} {what : Expectation} {read : Value → Option α}
    (hitems : s.frame.items = v :: rest) :
    Run.popAs what read env s
      = (match read v with
        | some a => pure a
        | none => Run.invalid (.expected what v.kind)) env (s.withItems rest) :=
  Run.bind_ok (pop_eq hitems)

/-- An item that can be read is taken. -/
theorem popAs_of_read {α : Type} {v : Value} {what : Expectation} {read : Value → Option α} {a : α}
    (hread : read v = some a) (hitems : s.frame.items = v :: rest) :
    Run.popAs what read env s = (.ok a, s.withItems rest) := by
  rw [popAs_eq hitems, hread]
  rfl

/-- An item that cannot be read is refused. -/
theorem popAs_of_unread {α : Type} {v : Value} {what : Expectation} {read : Value → Option α}
    (hread : read v = none) (hitems : s.frame.items = v :: rest) :
    ∃ e, Run.popAs what read env s = (.error e, s.withItems rest) := by
  have hpop : Run.popAs what read env s = _ := popAs_eq hitems
  rw [hread] at hpop
  exact ⟨_, hpop⟩

/-! ## Comparison -/

/-- What the word of a comparison is in the dictionary. -/
def comparison : CompareOp → LogicWord
  | .eq => .equal
  | .ne => .unequal
  | .lt => .less
  | .le => .lessEqual
  | .gt => .greater
  | .ge => .greaterEqual

theorem runBinary_eq {f : Value → Value → Bool} {v w : Value}
    (hitems : s.frame.items = v :: w :: rest) :
    runBinary f env s = (.ok (), s.withItems (.bool (f v w) :: rest)) :=
  (Run.bind_ok (pop_eq hitems)).trans ((Run.bind_ok (x := w) rfl).trans rfl)

theorem runOrder_eq {holds : Ordering → Bool} {v w : Value} {o : Ordering}
    (hitems : s.frame.items = v :: w :: rest) (ho : v.order? w = some o) :
    runOrder holds env s = (.ok (), s.withItems (.bool (holds o) :: rest)) := by
  refine (Run.bind_ok (pop_eq hitems)).trans ((Run.bind_ok (x := w) rfl).trans ?_)
  rw [ho]
  rfl

theorem runLogic_comparison (op : CompareOp) {v w : Value} {o : Ordering}
    (hequals : v.equals w = o.isEq) (horder : v.order? w = some o)
    (hitems : s.frame.items = v :: w :: rest) :
    runLogic (comparison op) env s = (.ok (), s.withItems (.bool (op.holds o) :: rest)) := by
  cases op with
  | eq =>
    refine (runBinary_eq hitems).trans ?_
    rw [hequals]
    rfl
  | ne =>
    refine (runBinary_eq hitems).trans ?_
    rw [hequals]
    cases o <;> rfl
  | _ => exact runOrder_eq hitems horder

/-- **The words of comparison** on two values that have an order, of which the top one is
the left operand. -/
theorem runName_comparison (op : CompareOp) {v w : Value} {o : Ordering}
    (hequals : v.equals w = o.isEq) (horder : v.order? w = some o)
    (hname : Unhidden op.text env s) (hitems : s.frame.items = v :: w :: rest) :
    runName runList op.text env s = (.ok .next, s.withItems (.bool (op.holds o) :: rest)) := by
  have hbuiltin : Dictionary.builtin op.text
      = [Dictionary.word [.any, .any] (.logic (comparison op))] := by
    cases op <;> rfl
  have haccepts : (Dictionary.word [.any, .any] (.logic (comparison op))).accepts
      s.frame.items := by
    rw [hitems]
    rfl
  rw [runName_native (fun h => Native.noConfusion h) (find?_of_unhidden hname hbuiltin haccepts)]
  exact Run.bind_ok (runLogic_comparison op hequals horder hitems)

theorem runName_compare (op : CompareOp) (h : Compares cmp S) (ha : a ∈ S) (hb : b ∈ S)
    (hname : Unhidden op.text env s) (hitems : s.frame.items = .int a :: .int b :: rest) :
    runName runList op.text env s
      = (.ok .next, s.withItems (.bool (op.holds (cmp a b)) :: rest)) :=
  runName_comparison op (equals_int h ha hb) (order?_int h ha hb) hname hitems

/-! ## Set algebra -/

/-- A name whose first fitting overload in the dictionary is a word on collections runs it. -/
theorem runName_collection (kinds : List Kind) (word : CollectionWord)
    (hname : Unhidden name env s)
    (hfound : (Dictionary.builtin name).find? (fun w => w.accepts s.frame.items)
      = some (Dictionary.word kinds (.collection word))) :
    runName runList name env s
      = (runCollection word >>= fun _ => pure .next) { env with word := name } s :=
  runName_native (fun h => Native.noConfusion h) ((find?_overloads_of_unhidden hname).trans hfound)

/-- **The set operations** leave what is made of two values of one kind that has them, the
top one being the right operand. -/
theorem runName_combine (op : SetOp) {v w u : Value} (hname : Unhidden op.text env s)
    (hitems : s.frame.items = w :: v :: rest) (h : op.combine? v w = some u) :
    runName runList op.text env s = (.ok .next, s.withItems (u :: rest)) := by
  have hbuiltin : Dictionary.builtin op.text = Dictionary.algebra op := by
    cases op <;> rfl
  -- the overloads are one for each kind, and all of them run the same
  obtain ⟨kinds, hfound⟩ : ∃ kinds, (Dictionary.algebra op).find? (fun w => w.accepts s.frame.items)
      = some (Dictionary.word kinds (.collection (.algebra op))) := by
    rw [hitems]
    unfold SetOp.combine? at h
    split at h
    · exact ⟨_, rfl⟩
    · exact ⟨_, rfl⟩
    · exact ⟨_, rfl⟩
    · cases h
  rw [runName_collection kinds (.algebra op) hname (hbuiltin ▸ hfound)]
  refine Run.bind_ok (x := ()) ((Run.bind_ok (pop_eq hitems)).trans
    ((Run.bind_ok (x := v) rfl).trans ?_))
  rw [h]
  rfl

/-- The set operations on two lists of integers. -/
theorem runName_algebra (op : SetOp) (h : Compares cmp S) (hns : ∀ n ∈ ns, n ∈ S)
    (hms : ∀ m ∈ ms, m ∈ S) (hname : Unhidden op.text env s)
    (hitems : s.frame.items = .list (ms.map .int) :: .list (ns.map .int) :: rest) :
    runName runList op.text env s = (.ok .next,
      s.withItems (.list ((op.onIntegers cmp ns ms).map .int) :: rest)) := by
  rw [runName_combine op hname hitems rfl, SetOp.onLists_ints op h hns hms]

/-! ## All of them -/

/-- **How some integers are compared**: by one order of them, in every place. -/
structure ComparesBy (cmp : Int → Int → Ordering) (S : Set Int) : Prop where
  /-- the words `==`, `!=`, `<`, `<=`, `>` and `>=` -/
  words (op : CompareOp) {runList : List Value → Run Flow} {env : Env} {s : State} {a b : Int}
    {rest : List Value} (ha : a ∈ S) (hb : b ∈ S) (hname : Unhidden op.text env s)
    (hitems : s.frame.items = .int a :: .int b :: rest) :
    runName runList op.text env s
      = (.ok .next, s.withItems (.bool (op.holds (cmp a b)) :: rest))
  /-- a leaf with an integer as its operand -/
  leaf (op : CompareOp) {s : Store} {d : DefId} {pointer : String} {ids : List EntityId}
    {f : EntityId → Int} {b : Int} (hs : s.Aligned) (hf : Reads s S (.of d pointer) d ids f)
    (hb : b ∈ S) :
    (Filter.compare op (.of d pointer) (.int b)).apply s ids
      = ids.filter fun e => op.holds (cmp (f e) b)
  /-- a leaf with a list of integers as its operand -/
  membership (op : CompareOp) {s : Store} {d : DefId} {pointer : String} {ids : List EntityId}
    {f : EntityId → Int} {ns : List Int} (hs : s.Aligned)
    (hf : Reads s S (.of d pointer) d ids f) (hns : ∀ n ∈ ns, n ∈ S) :
    (Filter.compare op (.of d pointer) (.list (ns.map .int))).apply s ids
      = ids.filter fun e => op.ofFound (ns.any fun n => (cmp (f e) n).isEq)
  /-- a leaf on stored lists with an integer as its operand -/
  items (op : CompareOp) {s : Store} {d : DefId} {pointer : String} {ids : List EntityId}
    {g : EntityId → List Int} {b : Int} (hs : s.Aligned)
    (hg : ReadsLists s S (.of d pointer) d ids g) (hb : b ∈ S) :
    (Filter.compare op (.of d pointer) (.int b)).apply s ids
      = ids.filter fun e => op.ofFound ((g e).any fun n => (cmp n b).isEq)
  /-- an order by an attribute of integer type -/
  order {o : OrderBy} {s : Store} {d : Definition} {ids : List EntityId} {f : EntityId → Int}
    (hd : (o.attr.defId?.bind fun i => s.definition? (.id i)) = some d)
    (htype : o.type d = .integer) (hf : Reads s S o.attr d.id ids f) :
    o.sort s ids = ids.mergeSort fun x y => o.direction.allows cmp (f x) (f y)
  /-- the words `union`, `intersect` and `diff` -/
  algebra (op : SetOp) {runList : List Value → Run Flow} {env : Env} {s : State} {ns ms : List Int}
    {rest : List Value} (hns : ∀ n ∈ ns, n ∈ S) (hms : ∀ m ∈ ms, m ∈ S)
    (hname : Unhidden op.text env s)
    (hitems : s.frame.items = .list (ms.map .int) :: .list (ns.map .int) :: rest) :
    runName runList op.text env s = (.ok .next,
      s.withItems (.list ((op.onIntegers cmp ns ms).map .int) :: rest))

theorem comparesBy_of_compares (h : Compares cmp S) : ComparesBy cmp S where
  words op := runName_compare op h
  leaf _ := apply_compare_int h
  membership _ := apply_compare_ints h
  items _ := apply_compare_array h
  order := sort_ints h
  algebra op := runName_algebra op h

/-- Of two orders by which integers are compared, either calls the same ones equal. -/
theorem ComparesBy.isEq_eq {cmp' : Int → Int → Ordering} (h : ComparesBy cmp S)
    (h' : ComparesBy cmp' S) (ha : a ∈ S) (hb : b ∈ S) : (cmp a b).isEq = (cmp' a b).isEq := by
  -- the word on a stack with nothing else shows it
  let env : Env := { limits := {}, now := default }
  let s : State := { frame := { items := [.int a, .int b] } }
  have hbare : Unhidden "==" env s := unhidden_of_bare rfl rfl
  have hrun : runName (fun _ => pure .next) "==" env s = _ := h.words .eq ha hb hbare rfl
  have hrun' : runName (fun _ => pure .next) "==" env s = _ := h'.words .eq ha hb hbare rfl
  have htop := congrArg (fun r => r.2.frame.items.map Value.truthy) (hrun.symm.trans hrun')
  exact (List.cons.inj htop).1

/-- **Integers are compared as doubles everywhere.** Whatever integers of 64 bits are
compared, in every place it is by what is left of them in doubles; and they are compared
exactly if no two of them come together there, and only then. What is left keeps the
order of integers, and is the integer itself up to `2 ^ 53`. -/
theorem integers_compare_as_doubles {S : Set Int} (hS : ∀ a ∈ S, fitsInt64 a) :
    ComparesBy compareNearest S ∧
    (ComparesBy compare S ↔ ∀ a ∈ S, ∀ b ∈ S, nearest a = nearest b → a = b) ∧
    (∀ a b : Int, a ≤ b → nearest a ≤ nearest b) ∧
    (∀ a : Int, a.natAbs ≤ 2 ^ 53 → nearest a = a) := by
  have hdoubles : ComparesBy compareNearest S := comparesBy_of_compares ⟨hS, fun _ _ _ _ => rfl⟩
  refine ⟨hdoubles, ⟨fun h a ha b hb hab => ?_, fun h => ?_⟩, fun _ _ => nearest_mono,
    fun _ => nearest_of_le⟩
  · have heq := h.isEq_eq hdoubles ha hb
    rw [compareNearest, compare_eq_iff_eq.2 hab] at heq
    exact compare_eq_iff_eq.1 (Ordering.isEq_iff_eq_eq.1 heq)
  · refine comparesBy_of_compares ⟨hS, fun a ha b hb => ?_⟩
    refine ((compare_nearest_iff a b).2 ?_).symm
    exact (eq_or_ne a b).imp_right fun hne hab => hne (h a ha b hb hab)

/-- Of two notes whose sizes come together, a filter for the one size keeps both, and
an order by the size leaves them as they stand. -/
theorem integers_compare_as_doubles_notes :
    let note (e : EntityId) (n : Int) : Item := .component
      { entity := e, defId := 1, attributes := Table.ofList [("size", .int n)] }
    let calls : List Store.Call :=
      [.register { uri := "/note", properties := [{ name := "size", type := .integer }] },
       .add (.many [note 1 9007199254740993, note 2 9007199254740992]) {}]
    let store := (Store.empty true).afterAll calls
    (Filter.compare .eq (.of 1 "size") (.int 9007199254740992)).apply store [1, 2] = [1, 2] ∧
      (OrderBy.mk (.of 1 "size") .ascending).sort store [1, 2] = [1, 2] := by
  intro note calls store
  let S : Set Int := {n | n = 9007199254740993 ∨ n = 9007199254740992}
  have hS : ∀ a ∈ S, fitsInt64 a := by
    rintro a (rfl | rfl) <;> decide
  obtain ⟨hcompare, -⟩ := integers_compare_as_doubles hS
  have hs : store.Consistent :=
    Store.kept_consistent.afterAll (fun _ _ => trivial) (Store.consistent_empty true)
  let size (e : EntityId) : Int := if e = 1 then 9007199254740993 else 9007199254740992
  have hsize : ∀ e, size e ∈ S := fun e => ite_eq_or_eq ..
  have hfields : ∀ e ∈ [1, 2], (store.fieldBy? (.of 1 "size") e 1).bind Json.toInt64?
      = some (size e) := by decide +kernel
  have hreads : Reads store S (.of 1 "size") 1 [1, 2] size :=
    fun e he => ⟨hsize e, eq_int_of_toInt64? (hfields e he)⟩
  let o : OrderBy := ⟨.of 1 "size", .ascending⟩
  let found := o.attr.defId?.bind fun i => store.definition? (.id i)
  have hfound : found.map (fun d => (d.id, o.type d)) = some (1, .integer) := by decide +kernel
  obtain ⟨d, hd, hnote⟩ := Option.map_eq_some_iff.1 hfound
  obtain ⟨hid, htype⟩ := Prod.mk.inj hnote
  have hsorted : Reads store S o.attr d.id [1, 2] size := by
    rw [hid]
    exact hreads
  constructor
  · rw [hcompare.leaf .eq hs.toAligned hreads (.inr rfl)]
    decide +kernel
  · rw [hcompare.order hd htype hsorted]
    exact List.mergeSort_of_pairwise (by decide +kernel)

/-- **They are not compared exactly.** The first integer that a double misses is equal
to the one before it, is not found to be greater, and is lost in their union. -/
theorem different_integers_are_equal :
    (Value.int 9007199254740992).equals (.int 9007199254740993) = true ∧
    compareField (.int 9007199254740993) .gt (.int 9007199254740992) = false ∧
    SetOp.union.onLists [.int 9007199254740992] [.int 9007199254740993]
      = [.int 9007199254740992] ∧
    ¬ ComparesBy compare {n | fitsInt64 n} := by
  have hdoubles : Compares compareNearest {n | fitsInt64 n} :=
    ⟨fun _ ha => ha, fun _ _ _ _ => rfl⟩
  have ha : fitsInt64 9007199254740992 := by decide
  have hb : fitsInt64 9007199254740993 := by decide
  refine ⟨?_, ?_, ?_, fun h => ?_⟩
  · rw [equals_int hdoubles ha hb]
    decide +kernel
  · rw [compareField_int hdoubles hb ha]
    decide +kernel
  · have hunion := SetOp.onLists_ints .union hdoubles (List.forall_mem_singleton.2 ha)
      (List.forall_mem_singleton.2 hb)
    have hmerged : SetOp.onIntegers compareNearest .union [9007199254740992] [9007199254740993]
        = [9007199254740992] := by decide +kernel
    exact hunion.trans (congrArg (List.map Value.int) hmerged)
  · have heq := h.isEq_eq (comparesBy_of_compares hdoubles) ha hb
    exact absurd heq (by decide +kernel)

end Machine

end EntityBase
