import EntityBase.Proofs.Machine.Arena.Follows

/-!
# Evaluation on an arena follows evaluation on nested frames

Each word that runs a list follows the run of the same word on frames that nest,
as soon as running a list does. So does what has a name, what a quoted word
stands for and a list of values. `follows_evalList` closes the circle by
induction on the levels.
-/

namespace EntityBase.Machine

open Work.Follows
open Work (Follows FollowsAt)
open Run (Plain)

variable {levels : Nat}

section Control

variable {evalList : List Value → Work Flow} {runList : List Value → Run Flow}

/-! ## Runs of lists in turn as sequences -/

theorem loopPasses_eq_bind (limit : Nat) (body : List Value) (n : Nat) :
    loopPasses runList limit body (n + 1) = (do
      match ← runList body with
      | .escape => pure ()
      | .next =>
        match ← Run.popIf .any with
        | some v => if v.truthy then loopPasses runList limit body n else pure ()
        | none => pure ()) := by
  refine Run.eq_bind (fun env s flow t h => ?_) fun _ _ _ _ h => by simp only [loopPasses, h]
  simp only [loopPasses, h]
  cases flow with
  | escape => rfl
  | next =>
    obtain ⟨⟨items, words⟩, store, selection, journal⟩ := t
    cases items with
    | nil => rfl
    | cons v rest =>
      have hpop : Run.popIf .any env ⟨⟨v :: rest, words⟩, store, selection, journal⟩
          = (.ok (some v), ⟨⟨rest, words⟩, store, selection, journal⟩) := rfl
      dsimp only
      rw [Run.bind_ok hpop]
      dsimp only
      split <;> rfl

theorem mapItems_eq_bind (body gathered : List Value) (v : Value) (rest : List Value) :
    mapItems runList body gathered (v :: rest) = (do
      let left ← onFrame runList { items := [v] } body
      mapItems runList body (left ++ gathered) rest) :=
  Run.eq_bind (fun _ _ _ _ h => by simp only [mapItems, h])
    fun _ _ _ _ h => by simp only [mapItems, h]

theorem filterItems_eq_bind (body gathered : List Value) (v : Value) (rest : List Value) :
    filterItems runList body gathered (v :: rest) = (do
      let left ← onFrame runList { items := [v] } body
      filterItems runList body (if left.head?.any Value.truthy then v :: gathered else gathered)
        rest) := by
  refine Run.eq_bind (fun _ _ left _ h => ?_) fun _ _ _ _ h => by simp only [filterItems, h]
  simp only [filterItems, h]
  cases left <;> rfl

theorem reduceItems_eq_bind (body : List Value) (acc v : Value) (rest : List Value) :
    reduceItems runList body acc (v :: rest) = (do
      let left ← onFrame runList { items := [v, acc] } body
      reduceItems runList body (left.head?.getD Value.nil) rest) :=
  Run.eq_bind (fun _ _ _ _ h => by simp only [reduceItems, h])
    fun _ _ _ _ h => by simp only [reduceItems, h]

theorem runSelect_eq_bind (body : List Value) :
    runSelect runList body = (do
      let (items, settings) ← Run.selecting (selectItems runList body)
      Run.push (selectResult (settings.any (·.count)) items)) := by
  funext env s
  change runSelect runList body env s = Run.bind (Run.selecting (selectItems runList body)) _ env s
  unfold runSelect Run.bind Run.selecting
  cases hrun : selectItems runList body env { s with selection := some {} } with
  | mk r t =>
    cases r with
    | error e => rfl
    | ok items =>
      dsimp only [Except.map]
      cases t.selection <;> rfl

theorem runValues_eq_bind (v : Value) (rest : List Value) :
    runValues runList (v :: rest) = (do
      match ← runValue runList v with
      | .next => runValues runList rest
      | .escape => pure .escape) := by
  refine Run.eq_bind (fun _ _ flow _ h => ?_) fun _ _ _ _ h => by simp only [runValues, h]
  simp only [runValues, h]
  cases flow <;> rfl

/-! ## Words that run lists -/

variable (hlist : ∀ items, Follows levels (evalList items) (runList items))

include hlist

theorem follows_loopPasses (limit : Nat) (body : List Value) (n : Nat) :
    Follows levels (Arena.loopPasses evalList limit body n) (loopPasses runList limit body n) := by
  induction n with
  | zero => exact fail _
  | succ n ih =>
    rw [loopPasses_eq_bind]
    refine (hlist body).bind fun flow => ?_
    cases flow with
    | escape => exact pure ()
    | next =>
      refine lift_bind (Plain.popIf .any) fun top => ?_
      cases top with
      | none => exact pure ()
      | some v => exact ite _ ih (pure ())

theorem follows_mapItems (body gathered items : List Value) :
    Follows levels (Arena.mapItems evalList body gathered items)
      (mapItems runList body gathered items) := by
  induction items generalizing gathered with
  | nil => exact pure gathered
  | cons v rest ih =>
    rw [mapItems_eq_bind]
    exact (onChild (hlist body)).bind fun left => ih (left ++ gathered)

theorem follows_filterItems (body gathered items : List Value) :
    Follows levels (Arena.filterItems evalList body gathered items)
      (filterItems runList body gathered items) := by
  induction items generalizing gathered with
  | nil => exact pure gathered
  | cons v rest ih =>
    rw [filterItems_eq_bind]
    exact (onChild (hlist body)).bind fun left => ih _

theorem follows_reduceItems (body : List Value) (acc : Value) (items : List Value) :
    Follows levels (Arena.reduceItems evalList body acc items)
      (reduceItems runList body acc items) := by
  induction items generalizing acc with
  | nil => exact pure acc
  | cons v rest ih =>
    rw [reduceItems_eq_bind]
    exact (onChild (hlist body)).bind fun left => ih _

/-- Inside a select program, its settings can be read. -/
theorem follows_selectItems {terms : Terms} {a : Arena} (ha : a.current < a.cells.size)
    (hlevels : terms.limits.maxDepth - a.depth = levels) (hselections : a.selections ≠ [])
    (body : List Value) :
    FollowsAt terms a (Arena.selectItems evalList body) (selectItems runList body) := by
  refine (onChild (hlist body) terms a ha hlevels).bind ha fun left s hfits _ => ?_
  have hput : (a.put s).current < (a.put s).cells.size := by
    rw [Arena.size_put]
    exact ha
  have hread : Follows levels
      (Work.lift Run.selection >>= fun settings =>
        if settings.read then Pure.pure left
        else Work.onChild { items := left, words := Dictionary.selectScope }
          (evalList implicitReader))
      (Run.selection >>= fun settings =>
        if settings.read then Pure.pure left
        else onFrame runList { items := left, words := Dictionary.selectScope } implicitReader) :=
    lift_bind plain_selection fun settings => ite _ (pure left) (onChild (hlist _))
  refine (hread terms (a.put s) hput hlevels).congr ?_
  rw [Arena.state_put ha hfits]
  rcases hfits.cases with ⟨⟨order, offset, limit, count, read⟩, hsel⟩ | ⟨_, hempty⟩
  · obtain ⟨frame, store, selection, journal⟩ := s
    subst hsel
    cases read <;> rfl
  · exact absurd hempty hselections

theorem follows_runSelect (body : List Value) :
    Follows levels (Arena.runSelect evalList body) (runSelect runList body) := by
  rw [runSelect_eq_bind]
  refine bind (selecting fun terms a ha hlevels hselections =>
    follows_selectItems hlist ha hlevels hselections body) fun left => ?_
  exact lift (Plain.push _)

theorem follows_runControl (w : ControlWord) :
    Follows levels (Arena.runControl evalList w) (runControl runList w) := by
  cases w with
  | define => exact lift (plain_runControl (.inl rfl))
  | bind => exact lift (plain_runControl (.inr (.inl rfl)))
  | escape => exact lift (plain_runControl (.inr (.inr (.inl rfl))))
  | print => exact lift (plain_runControl (.inr (.inr (.inr rfl))))
  | spread => exact lift_bind Plain.popList fun body => hlist body
  | eval =>
    exact lift_bind Plain.popList fun body => (onChild (hlist body)).bind fun left =>
      lift_bind (Plain.push _) fun _ => pure _
  | ifTrue =>
    exact lift_bind Plain.popList fun body => lift_bind Plain.pop fun condition =>
      ite _ (hlist body) (pure _)
  | ifElse =>
    exact lift_bind Plain.popList fun otherwise => lift_bind Plain.popList fun body =>
      lift_bind Plain.pop fun condition => ite _ (hlist body) (hlist otherwise)
  | loop =>
    exact lift_bind Plain.popList fun body => env fun e =>
      (follows_loopPasses hlist _ body _).bind fun _ => pure _
  | map =>
    exact lift_bind Plain.popList fun body => lift_bind Plain.popList fun items =>
      (follows_mapItems hlist body [] items).bind fun gathered =>
        lift_bind (Plain.push _) fun _ => pure _
  | filter =>
    exact lift_bind Plain.popList fun body => lift_bind Plain.popList fun items =>
      (follows_filterItems hlist body [] items).bind fun gathered =>
        lift_bind (Plain.push _) fun _ => pure _
  | reduce =>
    exact lift_bind Plain.popList fun body => lift_bind Plain.pop fun acc =>
      lift_bind Plain.popList fun items => (follows_reduceItems hlist body acc items).bind fun v =>
        lift_bind (Plain.push v) fun _ => pure _
  | select =>
    exact lift_bind Plain.popList fun body => lift_bind Plain.popEntitySet fun _ =>
      (follows_runSelect hlist body).bind fun _ => pure _

/-! ## Names, values and lists -/

theorem follows_runNative (n : Native) :
    Follows levels (Arena.runNative evalList n) (runNative runList n) := by
  cases n with
  | control w => exact follows_runControl hlist w
  | shuffle w => exact lift (plain_runShuffle w).next
  | logic w => exact lift (plain_runLogic w).next
  | collection w => exact lift (plain_runCollection w).next
  | store w => exact lift (plain_runStoreWord w).next
  | select w => exact lift (plain_runSelectWord w).next
  | host w => exact lift (plain_runHost w)

theorem follows_runAction (name : String) (action : Action) :
    Follows levels (Arena.runAction evalList name action) (runAction runList name action) := by
  cases action with
  | native n => exact (follows_runNative hlist n).asWord name
  | body items => exact (hlist items).bind fun _ => pure _
  | value v => exact lift (Plain.push v).next

end Control

section Lists

theorem follows_evalQuoted {invoke : String → Work Flow} {runName : String → Run Flow}
    (hname : ∀ name, Follows levels (invoke name) (runName name)) (q : QuotedWord) :
    Follows levels (Arena.evalQuoted invoke q) (runQuoted runName q) := by
  cases q with
  | word name => exact hname name
  | ref name => exact lift (m := runQuoted runName (.ref name)) (plain_runQuoted (by simp))
  | backRef name => exact lift (m := runQuoted runName (.backRef name)) (plain_runQuoted (by simp))
  | escaped depth rest =>
    exact lift (m := runQuoted runName (.escaped depth rest)) (plain_runQuoted (by simp))
  | attr path => exact lift (m := runQuoted runName (.attr path)) (plain_runQuoted (by simp))

theorem follows_evalValueBy {invoke : String → Work Flow} {runName : String → Run Flow}
    (hname : ∀ name, Follows levels (invoke name) (runName name)) (v : Value) :
    Follows levels (Arena.evalValueBy invoke v) (runValueBy runName v) := by
  cases v with
  | scalar s =>
    cases s with
    | quoted q => exact follows_evalQuoted hname q
    | _ => exact lift (Plain.push _).next
  | _ => exact lift (Plain.push _).next

variable {evalList : List Value → Work Flow} {runList : List Value → Run Flow}
  (hlist : ∀ items, Follows levels (evalList items) (runList items))

include hlist

theorem follows_invokeBy (fuel : Nat) (name : String) :
    Follows levels (Arena.invokeBy evalList fuel name) (runNameBy runList fuel name) := by
  induction fuel generalizing name with
  | zero =>
    refine lift_bind (Plain.resolve name) fun w => ?_
    cases w with
    | none => exact lift (Plain.push _).next
    | some w => exact follows_runAction hlist name w.action
  | succ fuel ih =>
    refine lift_bind (Plain.resolve name) fun w => ?_
    cases w with
    | none => exact lift (Plain.push _).next
    | some w =>
      obtain ⟨pattern, action⟩ := w
      -- only the host word that evaluates has a case of its own
      have hother := follows_runAction hlist name action
      cases action with
      | native n =>
        cases n with
        | host h =>
          cases h with
          | eval => exact (lift_bind Plain.pop fun v => follows_evalValueBy ih v).asWord name
          | _ => exact hother
        | _ => exact hother
      | _ => exact hother

theorem follows_invoke (name : String) :
    Follows levels (Arena.invoke evalList name) (runName runList name) :=
  lift_bind Plain.items fun items => follows_invokeBy hlist items.length name

theorem follows_evalItems (items : List Value) :
    Follows levels (Arena.evalItems evalList items) (runValues runList items) := by
  induction items with
  | nil => exact pure _
  | cons v rest ih =>
    rw [runValues_eq_bind]
    refine (follows_evalValueBy (follows_invoke hlist) v).bind fun flow => ?_
    cases flow with
    | next => exact ih
    | escape => exact pure _

end Lists

/-- Where no level is left, a list is refused. -/
theorem follows_runList_zero {w : Work Flow} {items : List Value}
    (hw : ∀ terms (a : Arena), terms.limits.maxDepth - a.depth = levels →
      w terms a = (.error (.depthExceeded terms.limits.maxDepth), a)) :
    Follows levels w (runList 0 items) := by
  intro terms a _ hlevels
  refine ⟨rfl, ?_⟩
  rw [hw terms a hlevels]
  change (_, a) = (_, a.put a.state)
  rw [Arena.put_state]
  rfl

/-- **Running a list on an arena follows running it on nested frames**, on as many
levels as both the ceiling and the recursion leave. -/
theorem follows_evalList (n : Nat) (items : List Value) :
    Follows levels (Arena.evalList n items) (runList (min n levels) items) := by
  induction n generalizing levels items with
  | zero =>
    rw [Nat.zero_min]
    exact follows_runList_zero fun _ _ _ => rfl
  | succ n ih =>
    cases levels with
    | zero =>
      rw [Nat.min_zero]
      refine follows_runList_zero fun terms a hlevels => ?_
      rw [Arena.evalList]
      exact if_pos (Nat.le_of_sub_eq_zero hlevels)
    | succ levels =>
      have hitems : Follows levels (Arena.evalItems (Arena.evalList n) items)
          (runValues (runList (min n levels)) items) := follows_evalItems ih items
      intro terms a ha hlevels
      have hdepth : ¬ terms.limits.maxDepth ≤ a.depth := by omega
      have hdeeper : Arena.evalList (n + 1) items terms a
          = Work.deeper (Arena.evalItems (Arena.evalList n) items) terms a := by
        rw [Arena.evalList]
        exact if_neg hdepth
      rw [Nat.add_min_add_right]
      obtain ⟨hfits, houtcome⟩ := hitems.deeper terms a ha hlevels
      exact ⟨hfits, hdeeper.trans houtcome⟩

end EntityBase.Machine
