import EntityBase.Proofs.Machine.Spread

/-!
# Building a store — what a program of additions does

A program may build up a store while the entity set waits on its stack.
`Leads` says that evaluating some values brings such a machine from one
store to another: a list that is read as a definition and added, or a list
of records that are read as components and added. Such steps follow one
another (`Leads.append`).
-/

namespace EntityBase.Machine

variable {runList : List Value → Run Flow} {env : Env} {s s' : State} {values values' : List Value}
  {store store' store'' : Store}

theorem runValues_append (h : runValues runList values env s = (.ok .next, s')) :
    runValues runList (values ++ values') env s = runValues runList values' env s' := by
  induction values generalizing s with
  | nil =>
    obtain rfl := (Prod.mk.inj h).2
    rfl
  | cons v rest ih =>
    rw [runValues_cons] at h
    rw [List.cons_append, runValues_cons]
    rcases hv : runValue runList v env s with ⟨e | _ | _, t⟩
    · rw [hv] at h
      cases h
    · rw [hv] at h
      exact ih h
    · rw [hv] at h
      cases h

/-- A machine without words that holds a store and waits with some items. -/
structure Holds (store : Store) (items : List Value) (s : State) : Prop where
  store_eq : s.store = some store
  items_eq : s.frame.items = items
  words_eq : s.frame.words = []

/-- Whether evaluating values brings a machine that holds one store to holding
another. -/
def Leads (runList : List Value → Run Flow) (env : Env) (values : List Value)
    (store : Store) (items : List Value) (store' : Store) (items' : List Value) : Prop :=
  ∀ s, Holds store items s →
    ∃ s', runValues runList values env s = (.ok .next, s') ∧ Holds store' items' s'

variable {items items' items'' : List Value}

theorem leads_nil : Leads runList env [] store items store items :=
  fun s hs => ⟨s, rfl, hs⟩

theorem Leads.append (h : Leads runList env values store items store' items')
    (h' : Leads runList env values' store' items' store'' items'') :
    Leads runList env (values ++ values') store items store'' items'' := by
  intro s hs
  obtain ⟨t, hrun, ht⟩ := h s hs
  obtain ⟨u, hrun', hu⟩ := h' t ht
  exact ⟨u, (runValues_append hrun).trans hrun', hu⟩

/-- A value that is no quoted word is pushed. -/
theorem leads_list (inner : List Value) :
    Leads runList env [.list inner] store items store (.list inner :: items) := by
  intro s hs
  obtain ⟨⟨below, words⟩, _, selection, journal⟩ := s
  obtain ⟨rfl, rfl, rfl⟩ := hs
  exact ⟨_, rfl, rfl, rfl, rfl⟩

/-- A quoted name runs the native word that the dictionary chooses. -/
theorem leads_native {name : String} {pattern : List Kind} {n : Native} (hn : n ≠ .host .eval)
    (houter : env.outer = [])
    (hfind : (Dictionary.builtin name).find? (fun w => w.accepts items) = some ⟨pattern, .native n⟩)
    (h : ∀ s, Holds store items s → ∃ s', runNative runList n { env with word := name } s
      = (.ok .next, s') ∧ Holds store' items' s') :
    Leads runList env [.quoted (.word name)] store items store' items' := by
  intro s hs
  obtain ⟨s', hrun, hs'⟩ := h s hs
  -- without words of its own the frame leaves the name to the dictionary
  have hoverloads : (overloads name (s.frame :: env.outer)).find?
      (fun w => w.accepts s.frame.items) = some ⟨pattern, .native n⟩ := by
    rw [overloads_of_unnamed houter (by rw [hs.words_eq]; rfl), hs.items_eq, hfind]
  have hvalue : runValue runList (.quoted (.word name)) env s = (.ok .next, s') :=
    (runName_native hn hoverloads).trans hrun
  refine ⟨s', ?_, hs'⟩
  rw [runValues_cons, hvalue]
  rfl

theorem leads_entitySet (houter : env.outer = []) :
    Leads runList env [.quoted (.word "@es")] store items store (.entitySet :: items) := by
  refine leads_native (by decide) houter rfl fun s hs => ?_
  obtain ⟨⟨below, words⟩, _, selection, journal⟩ := s
  obtain ⟨rfl, rfl, rfl⟩ := hs
  exact ⟨_, rfl, rfl, rfl, rfl⟩

theorem leads_drop {v : Value} (houter : env.outer = []) :
    Leads runList env [.quoted (.word "drop")] store (v :: items) store items := by
  refine leads_native (by decide) houter rfl fun s hs => ?_
  obtain ⟨⟨below, words⟩, _, selection, journal⟩ := s
  obtain ⟨rfl, rfl, rfl⟩ := hs
  exact ⟨_, rfl, rfl, rfl, rfl⟩

/-- A list that is read as a schema becomes a definition. -/
theorem leads_buildDefinition {inner : List Value} {schema : Schema} (houter : env.outer = [])
    (hread : (Value.list inner).toSchema = .ok schema) :
    Leads runList env [.quoted (.word "!d")] store (.list inner :: items) store
      (.definition (schema.define 0) :: items) := by
  refine leads_native (by decide) houter rfl fun s hs => ?_
  obtain ⟨⟨below, words⟩, _, selection, journal⟩ := s
  obtain ⟨rfl, rfl, rfl⟩ := hs
  refine ⟨⟨⟨.definition (schema.define 0) :: items, []⟩, some store, selection, journal⟩, ?_,
    rfl, rfl, rfl⟩
  have hread' : Run.ofExcept (Value.list inner).toSchema = Run.pure schema := by
    rw [hread]
    rfl
  simp only [runNative, runStoreWord, andNext, bind, Run.bind, Run.pop, hread', Run.pure]
  rfl

/-- A list of records becomes the components that are read from them. -/
theorem leads_buildComponents {inner : List Value} {components : List Component}
    (houter : env.outer = []) (hread : inner.mapM store.toComponent = .ok components) :
    Leads runList env [.quoted (.word "!c")] store (.list inner :: items) store
      (.list (components.map .component) :: items) := by
  refine leads_native (by decide) houter rfl fun s hs => ?_
  obtain ⟨⟨below, words⟩, _, selection, journal⟩ := s
  obtain ⟨rfl, rfl, rfl⟩ := hs
  refine ⟨⟨⟨.list (components.map .component) :: items, []⟩, some store, selection, journal⟩, ?_,
    rfl, rfl, rfl⟩
  have hread' : Run.ofExcept (inner.mapM store.toComponent) = Run.pure components := by
    rw [hread]
    rfl
  simp only [runNative, runStoreWord, andNext, bind, Run.bind, Run.store, Run.get, Run.pop, pure,
    Run.pure, hread']
  rfl

/-- What is read as an item is added to the store. -/
theorem leads_add {v : Value} {item : Item} (houter : env.outer = [])
    (hread : store.toItem v = .ok item) (hadd : store.add item {} = .ok store') :
    Leads runList env [.quoted (.word "+")] store (v :: .entitySet :: items) store'
      (.entitySet :: items) := by
  -- the top item may be of any kind, so the overload is found kind by kind
  have hfind : (Dictionary.builtin "+").find? (fun w => w.accepts (v :: .entitySet :: items))
      = some ⟨[.entitySet, .any], .native (.store .add)⟩ := by
    cases v <;> rfl
  refine leads_native (by decide) houter hfind fun s hs => ?_
  obtain ⟨⟨below, words⟩, _, selection, journal⟩ := s
  obtain ⟨rfl, rfl, rfl⟩ := hs
  have hread' : Run.ofExcept (store.toItem v) = Run.pure item := by
    rw [hread]
    rfl
  obtain ⟨changes, hresult⟩ := Update.outcome_eq_ok_iff.1 hadd
  have hrun := Update.result_eq_ok_iff.1 hresult
  refine ⟨⟨⟨.entitySet :: items, []⟩, some store', selection,
    { journal with notices := journal.notices ++ store.addReport item {} }⟩, ?_, rfl, rfl, rfl⟩
  simp only [runNative, runStoreWord, runAdd, andNext, bind, Run.bind, Run.store, Run.get, Run.pop,
    pure, Run.pure, Run.popEntitySet, Run.popAs, hread', Run.notify, Run.modify, Run.onStore, hrun]
  rfl

end EntityBase.Machine
