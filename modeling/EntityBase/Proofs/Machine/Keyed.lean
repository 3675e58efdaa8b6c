import EntityBase.Proofs.Machine.Integers
import EntityBase.Proofs.Value.Keyed

/-!
# Setting and getting, in programs

The word `set` puts a value at a key of a list, a map or a component, and the word `get` gives
what stands at a key. After the one, the other gives the value that was set, every other key
has what it had, and of two values that are set at one key the second one counts. One thing is
missing: the key of a field is a name to `set` and a pointer to `get`. A field whose name has a
slash or a number sign in front is set and cannot be got (`get_after_set`).
-/

namespace EntityBase.Machine

open Value

variable {c c' v w : Value} {k : Scalar} {env : Env} {s : State} {rest : List Value}
  {runList : List Value → Run Flow}

/-- The word `get` leaves the value for a container and a key. -/
def Gets (c : Value) (k : Scalar) (v : Value) : Prop :=
  ∀ (runList : List Value → Run Flow) (env : Env) (s : State) (rest : List Value),
    Unhidden "get" env s → s.frame.items = .scalar k :: c :: rest →
      runName runList "get" env s = (.ok .next, s.withItems (v :: rest))

/-- A key gives one value. -/
theorem Gets.unique (hv : Gets c k v) (hw : Gets c k w) : v = w := by
  let s : State := { frame := { items := [.scalar k, c] } }
  have hname : Unhidden "get" default s := unhidden_of_bare rfl rfl
  have hrun := (hv (fun _ => pure .next) default s [] hname rfl).symm.trans
    (hw (fun _ => pure .next) default s [] hname rfl)
  exact (List.cons.inj (congrArg (fun r => r.2.frame.items) hrun)).1

/-- The word `set` leaves the second container for the first one, a key and a value. -/
def Sets (c : Value) (k : Scalar) (v c' : Value) : Prop :=
  ∀ (runList : List Value → Run Flow) (env : Env) (s : State) (rest : List Value),
    Unhidden "set" env s → s.frame.items = v :: .scalar k :: c :: rest →
      runName runList "set" env s = (.ok .next, s.withItems (c' :: rest))

/-- The word `set` fails. -/
def SetFails (c : Value) (k : Scalar) (v : Value) : Prop :=
  ∀ (runList : List Value → Run Flow) (env : Env) (s : State) (rest : List Value),
    Unhidden "set" env s → s.frame.items = v :: .scalar k :: c :: rest →
      ∃ e s', runName runList "set" env s = (.error e, s')

/-! ## The words -/

/-- **The word `get` leaves what stands at the key.** -/
theorem gets_of_got? (h : c.got? k = some v) : Gets c k v := by
  intro runList env s rest hname hitems
  cases c with
  | list items =>
    obtain ⟨i, hk, rfl⟩ := Option.map_eq_some_iff.1 h
    rw [runName_collection [.list, .scalar] .getIndex hname (by rw [hitems]; rfl)]
    refine Run.bind_ok (x := ()) ((Run.bind_ok (popAs_of_read hk hitems)).trans ?_)
    exact (Run.bind_ok (x := items) rfl).trans rfl
  | map fields =>
    obtain ⟨key, hk, rfl⟩ := Option.map_eq_some_iff.1 h
    rw [runName_collection [.map, .scalar] .getKey hname (by rw [hitems]; rfl)]
    refine Run.bind_ok (x := ()) ((Run.bind_ok (popAs_of_read hk hitems)).trans ?_)
    exact (Run.bind_ok (x := fields) rfl).trans rfl
  | component c =>
    obtain ⟨key, hk, rfl⟩ := Option.map_eq_some_iff.1 h
    rw [runName_collection [.component, .scalar] .getField hname (by rw [hitems]; rfl)]
    refine Run.bind_ok (x := ()) ((Run.bind_ok (popAs_of_read hk hitems)).trans ?_)
    exact (Run.bind_ok (x := c) rfl).trans rfl
  | _ => cases h

/-- Setting a position goes by what putting the item there gives. -/
theorem runCollection_setIndex {items : List Value} {i : Int} (hk : k.toInt? = some i)
    (hitems : s.frame.items = v :: .scalar k :: .list items :: rest) :
    runCollection .setIndex env s
      = (match putAt? items i v with
        | some items' => Run.push (.list items')
        | none => Run.invalid (.indexOutOfRange i)) env (s.withItems rest) :=
  (Run.bind_ok (pop_eq hitems)).trans
    ((Run.bind_ok (popAs_of_read hk rfl)).trans (Run.bind_ok (x := items) rfl))

/-- **The word `set` leaves the container with the value put in.** -/
theorem sets_of_put? (h : c.put? k v = some c') : Sets c k v c' := by
  intro runList env s rest hname hitems
  cases c with
  | list items =>
    obtain ⟨items', hput, rfl⟩ := Option.map_eq_some_iff.1 h
    obtain ⟨i, hk, hput⟩ := Option.bind_eq_some_iff.1 hput
    rw [runName_collection [.list, .scalar, .any] .setIndex hname (by rw [hitems]; rfl)]
    have hrun : runCollection .setIndex { env with word := "set" } s = _ :=
      runCollection_setIndex hk hitems
    rw [hput] at hrun
    exact Run.bind_ok hrun
  | map fields =>
    obtain ⟨key, hk, rfl⟩ := Option.map_eq_some_iff.1 h
    rw [runName_collection [.map, .scalar, .any] .setKey hname (by rw [hitems]; rfl)]
    refine Run.bind_ok (x := ()) ((Run.bind_ok (pop_eq hitems)).trans
      ((Run.bind_ok (popAs_of_read hk rfl)).trans ?_))
    exact (Run.bind_ok (x := fields) rfl).trans rfl
  | component c =>
    obtain ⟨key, hk, rfl⟩ := Option.map_eq_some_iff.1 h
    rw [runName_collection [.component, .scalar, .any] .setField hname (by rw [hitems]; rfl)]
    refine Run.bind_ok (x := ()) ((Run.bind_ok (pop_eq hitems)).trans
      ((Run.bind_ok (popAs_of_read hk rfl)).trans ?_))
    exact (Run.bind_ok (x := c) rfl).trans rfl
  | _ => cases h

/-- What takes a value and then a key fails at a key that it cannot read. -/
theorem fails_of_unread {α β : Type} {what : Expectation} {read : Value → Option α}
    {m : Value → α → Run β} (hread : read w = none) (hitems : s.frame.items = v :: w :: rest) :
    ∃ e t, (Run.pop >>= fun v => Run.popAs what read >>= m v) env s = (.error e, t) := by
  obtain ⟨e, hunread⟩ : ∃ e, Run.popAs what read env (s.withItems (w :: rest))
      = (.error e, s.withItems rest) := popAs_of_unread hread rfl
  exact ⟨e, _, (Run.bind_ok (pop_eq hitems)).trans (Run.bind_error hunread)⟩

/-- **What cannot be put is refused.** -/
theorem setFails_of_put? (hc : c.IsKeyed) (h : c.put? k v = none) : SetFails c k v := by
  intro runList env s rest hname hitems
  cases c with
  | list items =>
    rw [runName_collection [.list, .scalar, .any] .setIndex hname (by rw [hitems]; rfl)]
    have hput := Option.map_eq_none_iff.1 h
    cases hk : k.toInt? with
    | none =>
      have hunread : (Value.scalar k).toInt? = none := hk
      obtain ⟨e, t, hfails⟩ := fails_of_unread hunread hitems
      exact ⟨e, t, Run.bind_error hfails⟩
    | some i =>
      rw [hk, Option.bind_some] at hput
      have hrun : runCollection .setIndex { env with word := "set" } s = _ :=
        runCollection_setIndex hk hitems
      rw [hput] at hrun
      exact ⟨_, _, Run.bind_error hrun⟩
  | map fields =>
    rw [runName_collection [.map, .scalar, .any] .setKey hname (by rw [hitems]; rfl)]
    have hunread : (Value.scalar k).name? = none := Option.map_eq_none_iff.1 h
    obtain ⟨e, t, hfails⟩ := fails_of_unread hunread hitems
    exact ⟨e, t, Run.bind_error hfails⟩
  | component c =>
    rw [runName_collection [.component, .scalar, .any] .setField hname (by rw [hitems]; rfl)]
    have hunread : (Value.scalar k).name? = none := Option.map_eq_none_iff.1 h
    obtain ⟨e, t, hfails⟩ := fails_of_unread hunread hitems
    exact ⟨e, t, Run.bind_error hfails⟩
  | _ => cases hc

/-! ## What becomes of a container -/

/-- The word `get` leaves the same for both containers. -/
def GetsAlike (c c' : Value) (k : Scalar) : Prop := ∃ v, Gets c k v ∧ Gets c' k v

/-- The word `set` leaves the same for both containers. -/
def SetsAlike (c c' : Value) (k : Scalar) (v : Value) : Prop := ∃ c'', Sets c k v c'' ∧ Sets c' k v c''

/-- **What becomes of a list** when a value is set at a position. -/
structure ListSet (items : List Value) (k : Scalar) (i : Int) (v : Value) (items' : List Value) :
    Prop where
  set : Sets (.list items) k v (.list items')
  /-- the position has the value -/
  get : Gets (.list items') k v
  /-- every other place has what it had -/
  others {p : Nat} (hp : place? items'.length i ≠ some p) : items'[p]? = items[p]?
  /-- and so every position that means one of them gives that -/
  getOthers {j : Scalar} {n : Int} {p : Nat} (hj : j.toInt? = some n)
    (hn : place? items'.length n = some p) (hp : place? items'.length i ≠ some p) :
    ∃ u, items[p]? = some u ∧ Gets (.list items') j u
  /-- what was set before at the position makes no difference -/
  again (w : Value) : SetsAlike (.list items) (.list items') k w

/-- **What becomes of a map** when a value is set at a key. -/
structure MapSet (fields : List (String × Value)) (k : Scalar) (key : String) (v : Value)
    (fields' : List (String × Value)) : Prop where
  set : Sets (.map fields) k v (.map fields')
  /-- the key has the value -/
  get : Gets (.map fields') k v
  /-- every other key has what it had -/
  others {other : String} (h : other ≠ key) : Entries.get? other fields' = Entries.get? other fields
  /-- and gives that -/
  getOthers {j : Scalar} {other : String} (hj : j.name? = some other) (h : other ≠ key) :
    GetsAlike (.map fields) (.map fields') j
  /-- what was set before at the key makes no difference -/
  again (w : Value) : SetsAlike (.map fields) (.map fields') k w

/-- **What becomes of a component** when a value is set in a field. -/
structure FieldSet (c : Component) (k : Scalar) (key : String) (v : Value) (c' : Component) :
    Prop where
  set : Sets (.component c) k v (.component c')
  /-- the field has the value as stored data -/
  field : c'.attributes.get? key = some v.toJson
  /-- and gives that, if its name is plain -/
  get (h : Component.IsPlainName key) : Gets (.component c') k (ofJson v.toJson)
  /-- if it is not, setting the field makes no difference to getting it -/
  missed (h : ¬ Component.IsPlainName key) : GetsAlike (.component c) (.component c') k
  /-- the pointers to the field see the value -/
  getPointed {j : Scalar} {pointer : String} (hj : j.name? = some pointer)
    (h : (Component.target pointer).1 = key) : Gets (.component c') j
      (((v.toJson.pointer? (Component.target pointer).2).map ofJson).getD nil)
  /-- every other field has what it had -/
  others {other : String} (h : other ≠ key) : c'.attributes.get? other = c.attributes.get? other
  /-- and the other pointers see that -/
  getOthers {j : Scalar} {pointer : String} (hj : j.name? = some pointer)
    (h : (Component.target pointer).1 ≠ key) : GetsAlike (.component c) (.component c') j
  /-- the component belongs where it did -/
  identity : c'.entity = c.entity ∧ c'.defId = c.defId
  /-- what was set before in the field makes no difference -/
  again (w : Value) : SetsAlike (.component c) (.component c') k w

/-- **A field gives what was set** if its name is plain, or if it gave that before. -/
theorem FieldSet.gets_iff {c c' : Component} {key : String} (h : FieldSet c k key v c') :
    Gets (.component c') k (ofJson v.toJson) ↔
      Component.IsPlainName key ∨ Gets (.component c) k (ofJson v.toJson) := by
  by_cases hplain : Component.IsPlainName key
  · exact iff_of_true (h.get hplain) (.inl hplain)
  · obtain ⟨u, hbefore, hafter⟩ := h.missed hplain
    rw [or_iff_right hplain]
    refine ⟨fun hget => ?_, fun hget => ?_⟩
    · rwa [hget.unique hafter]
    · rwa [hget.unique hbefore]

theorem exists_listSet {items : List Value} {i : Int} (v : Value) (hk : k.toInt? = some i)
    (hi : -(items.length : Int) ≤ i ∧ i ≤ items.length) :
    ∃ items', ListSet items k i v items' := by
  obtain ⟨items', hput⟩ := Option.isSome_iff_exists.1 (putAt?_isSome_iff (v := v).2 hi)
  obtain ⟨q, hq, hplaces, hagain⟩ := exists_place_of_putAt? hput
  have hothers {p : Nat} (hp : place? items'.length i ≠ some p) : items'[p]? = items[p]? := by
    rw [hplaces, if_neg fun hpq : p = q => hp (hpq ▸ hq)]
  have hgot {j : Scalar} {n : Int} (hj : j.toInt? = some n) :
      Gets (.list items') j (itemAt items' n) := gets_of_got? (by rw [got?, hj]; rfl)
  have hset {list : List Value} {w : Value} {list' : List Value}
      (h : putAt? list i w = some list') : Sets (.list list) k w (.list list') :=
    sets_of_put? (by rw [put?, hk, Option.bind_some, h]; rfl)
  refine ⟨items', hset hput, ?_, hothers, ?_, fun w => ?_⟩
  · have hitem : itemAt items' i = v := itemAt_eq hq (by rw [hplaces, if_pos rfl])
    exact hitem ▸ hgot hk
  · intro j n p hj hn hp
    have hlength := (place?_eq_some_iff.1 hn).1
    refine ⟨itemAt items' n, ?_, hgot hj⟩
    rw [← hothers hp, itemAt_eq hn (List.getElem?_eq_getElem hlength),
      List.getElem?_eq_getElem hlength]
  · obtain ⟨items'', hput''⟩ := Option.isSome_iff_exists.1 (putAt?_isSome_iff (v := w).2 hi)
    exact ⟨.list items'', hset hput'', hset ((hagain w).trans hput'')⟩

theorem exists_mapSet {key : String} (fields : List (String × Value)) (v : Value)
    (hk : k.name? = some key) : ∃ fields', MapSet fields k key v fields' := by
  have hgot {j : Scalar} {other : String} (fields : List (String × Value))
      (hj : j.name? = some other) :
      Gets (.map fields) j ((Entries.get? other fields).getD nil) :=
    gets_of_got? (by rw [got?, hj]; rfl)
  have hset (fields : List (String × Value)) (w : Value) :
      Sets (.map fields) k w (.map (Entries.insert key w fields)) :=
    sets_of_put? (by rw [put?, hk]; rfl)
  have hothers {other : String} (h : other ≠ key) :
      Entries.get? other (Entries.insert key v fields) = Entries.get? other fields := by
    rw [Entries.get?_insert, if_neg fun heq => h (Entries.compare_eq_eq_iff.1 heq)]
  refine ⟨Entries.insert key v fields, hset fields v, ?_, hothers, ?_, fun w => ?_⟩
  · have hself : Entries.get? key (Entries.insert key v fields) = some v := by
      rw [Entries.get?_insert, if_pos Std.ReflCmp.compare_self]
    have hget := hgot (Entries.insert key v fields) hk
    rwa [hself] at hget
  · intro j other hj h
    have hget := hgot (Entries.insert key v fields) hj
    rw [hothers h] at hget
    exact ⟨_, hgot fields hj, hget⟩
  · have hagain := hset (Entries.insert key v fields) w
    rw [Entries.insert_insert] at hagain
    exact ⟨_, hset fields w, hagain⟩

theorem exists_fieldSet {key : String} (c : Component) (v : Value) (hk : k.name? = some key) :
    ∃ c', FieldSet c k key v c' := by
  have hgot {j : Scalar} {pointer : String} (c : Component) (hj : j.name? = some pointer) :
      Gets (.component c) j (((c.pointer? pointer).map ofJson).getD nil) :=
    gets_of_got? (by rw [got?, hj]; rfl)
  have hset (c : Component) (w : Value) :
      Sets (.component c) k w (.component (c.setField key w.toJson)) :=
    sets_of_put? (by rw [put?, hk]; rfl)
  have hpointed {j : Scalar} {pointer : String} (hj : j.name? = some pointer)
      (h : (Component.target pointer).1 = key) : Gets (.component (c.setField key v.toJson)) j
        (((v.toJson.pointer? (Component.target pointer).2).map ofJson).getD nil) := by
    rw [← Component.pointer?_setField_of_target c v.toJson h]
    exact hgot _ hj
  have hothers {j : Scalar} {pointer : String} (hj : j.name? = some pointer)
      (h : (Component.target pointer).1 ≠ key) :
      GetsAlike (.component c) (.component (c.setField key v.toJson)) j := by
    have hget := hgot (c.setField key v.toJson) hj
    rw [Component.pointer?_setField_of_ne c v.toJson h] at hget
    exact ⟨_, hgot c hj, hget⟩
  refine ⟨c.setField key v.toJson, hset c v, Table.get?_insert_self .., fun h => ?_, fun h => ?_,
    hpointed, ?_, hothers, ⟨rfl, rfl⟩, fun w => ?_⟩
  · have htarget := Component.target_of_isPlainName h
    have hget := hpointed hk (congrArg Prod.fst htarget)
    rwa [htarget] at hget
  · exact hothers hk (Component.target_ne h)
  · intro other h
    exact Table.get?_insert_of_ne _ _ h
  · have hagain := hset (c.setField key v.toJson) w
    rw [Component.setField_setField] at hagain
    exact ⟨_, hset c w, hagain⟩

/-- **Get after set.** At every position that `set` accepts, which is every place of a list and
the one behind them from either end, and at every key of a map, `get` gives what was set, the
rest stays, and setting once more is as setting for the first time. So it is with the fields of
a component, whose values are stored data, as long as their names are plain; a field with
another name gives what it gave before. Keys that are not accepted are refused. -/
theorem get_after_set (k : Scalar) (v : Value) :
    (∀ items i, k.toInt? = some i → -(items.length : Int) ≤ i ∧ i ≤ items.length →
      ∃ items', ListSet items k i v items') ∧
    (∀ fields key, k.name? = some key → ∃ fields', MapSet fields k key v fields') ∧
    (∀ c key, k.name? = some key → ∃ c', FieldSet c k key v c' ∧
      (Gets (.component c') k (ofJson v.toJson) ↔
        Component.IsPlainName key ∨ Gets (.component c) k (ofJson v.toJson))) ∧
    ∀ c, c.IsKeyed → ¬ c.Accepts k → SetFails c k v := by
  refine ⟨fun _ _ hk hi => exists_listSet v hk hi, fun fields _ => exists_mapSet fields v,
    fun c key hk => ?_, fun c hc hk => setFails_of_put? hc ?_⟩
  · obtain ⟨c', hset⟩ := exists_fieldSet c v hk
    exact ⟨c', hset, hset.gets_iff⟩
  · cases hput : c.put? k v with
    | none => rfl
    | some c' => exact (hk (put?_isSome_iff.1 (Option.isSome_of_eq_some hput))).elim

/-- The last item of `[10 20]` is replaced from the end, a field of a note is set by its name,
and an empty list has no second place. -/
theorem get_after_set_note :
    let note : Component := { entity := 1, defId := 1 }
    (∃ c', Sets (.list [.int 10, .int 20]) (.int (-1)) (.int 30) c' ∧
      Gets c' (.int (-1)) (.int 30)) ∧
    (∃ c', Sets (.component note) (.text "size") (.int 3) c' ∧ Gets c' (.text "size") (.int 3)) ∧
    SetFails (.list []) (.int 1) (.int 3) := by
  intro note
  obtain ⟨hlists, -, -, -⟩ := get_after_set (.int (-1)) (.int 30)
  obtain ⟨-, -, hfields, -⟩ := get_after_set (.text "size") (.int 3)
  obtain ⟨-, -, -, hrefused⟩ := get_after_set (.int 1) (.int 3)
  have hplain : Component.IsPlainName "size" := by
    rintro c rest hname
    obtain ⟨rfl, -⟩ := List.cons.inj hname
    decide
  refine ⟨?_, ?_, hrefused _ trivial ?_⟩
  · obtain ⟨items', hset⟩ := hlists [.int 10, .int 20] (-1) rfl (by decide)
    exact ⟨.list items', hset.set, hset.get⟩
  · obtain ⟨c', hset, hgets⟩ := hfields note "size" rfl
    exact ⟨.component c', hset.set, hgets.2 (.inl hplain)⟩
  · rintro ⟨i, hi, -, hle⟩
    obtain rfl := Option.some.inj hi
    exact absurd hle (by decide)

/-- **A field is set and cannot be got.** Its name has a slash in front. -/
theorem field_behind_slash_is_not_got :
    let note : Component := { entity := 1, defId := 1 }
    ∃ c', Sets (.component note) (.text "/a") (.int 1) c' ∧ Gets c' (.text "/a") nil ∧
      ofJson (Value.int 1).toJson = .int 1 :=
  ⟨_, sets_of_put? rfl, gets_of_got? rfl, rfl⟩

end EntityBase.Machine
