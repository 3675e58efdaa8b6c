import EntityBase.Proofs.Machine.Stepwise.Chains

/-!
# Agreement — the steps come to the outcome of the evaluator

Whatever is called begins the work of the evaluator: there is one lemma per word that
runs lists, given that lists begin their work one level down, and the induction on
the levels that the ceiling leaves closes the circle (`begins_evalList`). So every
list ends, and with the outcome of the evaluator.

Within one level the recursion is on the data: the items of a list, the passes that
a loop has left, and for the host word that evaluates, which does not go down a
level, the items on the stack.
-/

namespace EntityBase.Machine

open Begins

variable {terms : Terms} {a : Arena}

/-! ## Steps that run no list -/

/-- What is popped is gone. -/
theorem length_items_of_pop {v : Value} {a' : Arena} (h : Work.lift Run.pop terms a = (.ok v, a')) :
    a'.frame.items.length < a.frame.items.length := by
  unfold Work.lift Run.pop at h
  cases hitems : a.state.frame.items with
  | nil =>
    rw [hitems] at h
    cases h
  | cons top rest =>
    rw [hitems] at h
    obtain rfl := (Prod.mk.inj h).2
    have hitems' : a.frame.items = top :: rest := hitems
    have hin : a.current < a.cells.size := by
      by_contra hout
      have hframe : a.frame = {} := by
        simp [Arena.frame, Arena.cell, Array.getD_eq_getD_getElem?, Nat.le_of_not_lt hout]
      rw [hframe] at hitems'
      cases hitems'
    rw [Arena.frame_put hin, hitems']
    exact Nat.lt_succ_self _

/-- A word is looked for, and nothing changes. -/
theorem resolve_state (name : String) (env : Env) (s : State) :
    (Run.resolve name env s).2 = s := by
  change ((if (overloads name (s.frame :: env.outer)).isEmpty then pure none
    else _ : Run (Option Word)) env s).2 = s
  split
  · rfl
  · cases (overloads name (s.frame :: env.outer)).find? fun w => w.accepts s.frame.items with
    | none => rfl
    | some w => rfl

theorem lift_resolve (name : String) : (Work.lift (Run.resolve name) terms a).2 = a := by
  change a.put (Run.resolve name (a.env terms) a.state).2 = a
  rw [resolve_state, Arena.put_state]

/-- What a select program comes to, given what it left. -/
def selectEnd (left : List Value) : Work Flow := do
  let settings ← Work.endSelect
  Run.push (selectResult (settings.any (·.count)) left)
  pure .next

theorem begins_selectNext (left : List Value) :
    Begins terms a (selectNext left) (selectEnd left) :=
  bind rfl fun _ _ _ => lift_bind fun _ _ _ => .flow .next

/-- Settings that cannot be read are not there to be dropped. -/
theorem thenOr_selection (f : Selection → Work Flow) :
    (Work.lift Run.selection).thenOr Arena.endSelect f = Work.lift Run.selection >>= f := by
  funext terms a
  obtain ⟨cells, current, depth, word, selections, store, journal⟩ := a
  cases selections <;> rfl

/-- The name of the word is back after it. -/
theorem begins_asWord {n : Native} {work : Work Flow} (name : String)
    (h : Begins terms { a with word := name } (startNative n) work) :
    Begins terms a (startAction name (.native n)) (Work.asWord name work) := by
  have hback := (call (c := .native n) h).before (p := .word a.word) (fun _ => rfl)
    fun flow a' ha' => (⟨.flow flow _, rfl⟩ :
      Begins terms a' ((Pending.word a.word).resume flow) fun _ b => (.ok flow, { b with word := a.word }))
  refine hback.elsewhere rfl ?_ rfl
  unfold Work.asWord Work.thenOr
  rcases work terms { a with word := name } with ⟨e | flow, a'⟩
  · rfl
  · rfl

/-- The host word that evaluates, where there is nothing to evaluate. -/
theorem begins_hostEval (hitems : a.frame.items = []) :
    Begins terms a (startNative (.host .eval)) (Work.lift (runHost .eval)) := by
  have hpop : Run.pop (a.env terms) a.state
      = (.error (.stackUnderflow (a.env terms).word), a.state) := by
    have hstate : a.state.frame.items = [] := hitems
    unfold Run.pop
    rw [hstate]
  have hhost : runHost .eval (a.env terms) a.state
      = (.error (.stackUnderflow (a.env terms).word), a.state) :=
    Run.bind_error (Run.bind_error hpop)
  exact .error (Work.bind_error (Work.lift_eq_self hpop)) (Work.lift_eq_self hhost) rfl

theorem begins_startValue {invoke : String → Work Flow}
    (hname : ∀ name, Begins terms a (startName name) (invoke name)) (v : Value) :
    Begins terms a (startValue v) (Arena.evalValueBy invoke v) := by
  cases v with
  | scalar x =>
    cases x with
    | quoted q =>
      cases q with
      | word name => exact call (hname name)
      | _ => exact lift _
    | _ => exact lift_bind fun _ _ _ => .flow .next
  | _ => exact lift_bind fun _ _ _ => .flow .next

section Control

variable {evalList : List Value → Work Flow} {depth : Nat}
  (hlist : ∀ (a : Arena) items, a.depth = depth → Begins terms a (startList items) (evalList items))

include hlist

/-! ## Words that run lists -/

theorem begins_list (ha : a.depth = depth) (items : List Value) :
    Begins terms a (pure (.call (.list items) [])) (evalList items) := call (hlist a items ha)

/-- A loop that has so many passes left. -/
theorem begins_startPass (ha : a.depth = depth) (body : List Value) {passes n : Nat}
    (hn : passes + n = terms.limits.loopLimit) :
    Begins terms a (startPass body passes) (do
      Arena.loopPasses evalList terms.limits.loopLimit body n
      pure .next) := by
  induction n generalizing a passes with
  | zero => exact .error (startPass_of_le (Nat.le_of_eq hn.symm)) rfl rfl
  | succ n ih =>
    rw [Arena.loopPasses, Work.bind_assoc]
    refine (before_bind rfl (begins_list hlist ha body) fun flow a' ha' => ?_).elsewhere
      (startPass_of_lt (by omega)) rfl rfl
    cases flow with
    | escape => exact .flow .next
    | next =>
      dsimp only
      rw [Work.bind_assoc]
      refine lift_bind fun top a'' ha'' => ?_
      cases top with
      | none => exact .flow .next
      | some v =>
        by_cases hv : v.truthy = true
        · simp only [hv, if_true]
          exact call (ih (ha''.trans (ha'.trans ha)) (by omega))
        · simp only [hv]
          exact .flow .next

theorem begins_mapNext (ha : a.depth = depth) (body gathered items : List Value) :
    Begins terms a (mapNext body gathered items) (do
      let gathered ← Arena.mapItems evalList body gathered items
      Run.push (.list gathered.reverse)
      pure .next) := by
  induction items generalizing gathered a with
  | nil => exact lift_bind fun _ _ _ => .flow .next
  | cons v rest ih =>
    rw [Arena.mapItems, Work.bind_assoc]
    exact child (fun _ => rfl) (fun _ => rfl) (hlist _ body ha) fun left a' ha' => ih (ha'.trans ha) _

theorem begins_filterNext (ha : a.depth = depth) (body gathered items : List Value) :
    Begins terms a (filterNext body gathered items) (do
      let gathered ← Arena.filterItems evalList body gathered items
      Run.push (.list gathered.reverse)
      pure .next) := by
  induction items generalizing gathered a with
  | nil => exact lift_bind fun _ _ _ => .flow .next
  | cons v rest ih =>
    rw [Arena.filterItems, Work.bind_assoc]
    exact child (fun _ => rfl) (fun _ => rfl) (hlist _ body ha) fun left a' ha' => ih (ha'.trans ha) _

theorem begins_reduceNext (ha : a.depth = depth) (body : List Value) (acc : Value)
    (items : List Value) :
    Begins terms a (reduceNext body acc items) (do
      let v ← Arena.reduceItems evalList body acc items
      Run.push v
      pure .next) := by
  induction items generalizing acc a with
  | nil => exact lift_bind fun _ _ _ => .flow .next
  | cons v rest ih =>
    rw [Arena.reduceItems, Work.bind_assoc]
    exact child (fun _ => rfl) (fun _ => rfl) (hlist _ body ha) fun left a' ha' => ih (ha'.trans ha) _

theorem begins_selectItems (ha : a.depth = depth) (body : List Value) :
    Begins terms a (Work.openChild { words := Dictionary.selectScope } body .select)
      ((Arena.selectItems evalList body).thenOr Arena.endSelect selectEnd) := by
  rw [Arena.selectItems, Work.thenOr_bind]
  refine child (fun _ => rfl) (fun _ => rfl) (hlist _ body ha) fun left a' ha' => ?_
  have hread := thenOr_selection fun settings =>
    (if settings.read then pure left
      else Work.onChild { items := left, words := Dictionary.selectScope }
        (evalList implicitReader)).thenOr Arena.endSelect selectEnd
  rw [Work.thenOr_bind]
  refine Eq.mpr (congrArg _ hread) (lift_bind fun settings a'' ha'' => ?_)
  by_cases hset : settings.read = true
  · simp only [hset, if_true]
    exact begins_selectNext left
  · simp only [hset]
    exact child (fun _ => rfl) (fun _ => rfl) (hlist _ _ (ha''.trans (ha'.trans ha)))
      fun left a''' _ => begins_selectNext left

theorem begins_select (ha : a.depth = depth) (body : List Value) :
    Begins terms a
      (do
        Work.beginSelect
        Work.openChild { words := Dictionary.selectScope } body .select)
      (do
        Arena.runSelect evalList body
        pure .next) := by
  let b : Arena := { a with selections := {} :: a.selections }
  have hitems := begins_selectItems (a := b) hlist ha body
  refine hitems.elsewhere rfl ?_ rfl
  rw [Arena.runSelect, Work.bind_assoc]
  rcases h : Arena.selectItems evalList body terms b with ⟨e | left, a'⟩
  · have hselecting : Work.selecting (Arena.selectItems evalList body) terms a
        = (.error e, a'.endSelect) := by
      unfold Work.selecting
      rw [h]
      rfl
    rw [Work.thenOr_error h, Work.bind_error hselecting]
  · have hselecting : Work.selecting (Arena.selectItems evalList body) terms a
        = (.ok (left, a'.selections.head?), a'.endSelect) := by
      unfold Work.selecting
      rw [h]
      rfl
    rw [Work.thenOr_ok h, Work.bind_ok hselecting]
    rfl

theorem begins_startControl (ha : a.depth = depth) (w : ControlWord) :
    Begins terms a (startControl w) (Arena.runControl evalList w) := by
  cases w with
  | define | bind | escape | print => exact lift _
  | spread => exact lift_bind fun body a' ha' => begins_list hlist (ha'.trans ha) body
  | eval =>
    exact lift_bind fun body a' ha' => child (fun _ => rfl) (fun _ => rfl)
      (hlist _ body (ha'.trans ha)) fun left a'' _ => lift_bind fun _ _ _ => .flow .next
  | ifTrue =>
    exact lift_bind fun body a' ha' => lift_bind fun condition a'' ha'' =>
      ite _ (begins_list hlist (ha''.trans (ha'.trans ha)) body) (.flow .next)
  | ifElse =>
    refine lift_bind fun otherwise a₁ h₁ => lift_bind fun body a₂ h₂ =>
      lift_bind fun condition a₃ h₃ => ?_
    have hdepth : a₃.depth = depth := h₃.trans (h₂.trans (h₁.trans ha))
    exact ite _ (begins_list hlist hdepth body) (begins_list hlist hdepth otherwise)
  | loop =>
    refine lift_bind fun body a' ha' => ?_
    have henv : Work.lift Run.env terms a' = (.ok (a'.env terms), a') := Work.lift_eq_self rfl
    exact (call (begins_startPass hlist (ha'.trans ha) body (Nat.zero_add _))).elsewhere rfl
      (Work.bind_ok henv) rfl
  | map =>
    exact lift_bind fun body a₁ h₁ => lift_bind fun items a₂ h₂ =>
      begins_mapNext hlist (h₂.trans (h₁.trans ha)) body [] items
  | filter =>
    exact lift_bind fun body a₁ h₁ => lift_bind fun items a₂ h₂ =>
      begins_filterNext hlist (h₂.trans (h₁.trans ha)) body [] items
  | reduce =>
    exact lift_bind fun body a₁ h₁ => lift_bind fun acc a₂ h₂ => lift_bind fun items a₃ h₃ =>
      begins_reduceNext hlist (h₃.trans (h₂.trans (h₁.trans ha))) body acc items
  | select =>
    exact lift_bind fun body a₁ h₁ => lift_bind fun _ a₂ h₂ =>
      begins_select hlist (h₂.trans (h₁.trans ha)) body

/-! ## Names, values and lists -/

/-- The host word that evaluates apart. -/
theorem begins_startNative (ha : a.depth = depth) {n : Native} (hn : n ≠ .host .eval) :
    Begins terms a (startNative n) (Arena.runNative evalList n) := by
  cases n with
  | control w => exact begins_startControl hlist ha w
  | host w =>
    cases w with
    | eval => exact absurd rfl hn
    | _ => exact lift _
  | _ => exact lift _

theorem begins_startAction (ha : a.depth = depth) (name : String) {action : Action}
    (haction : action ≠ .native (.host .eval)) :
    Begins terms a (startAction name action) (Arena.runAction evalList name action) := by
  cases action with
  | native n =>
    have hn : n ≠ .host .eval := fun h => haction (congrArg _ h)
    exact begins_asWord name (begins_startNative (a := { a with word := name }) hlist ha hn)
  | body items => exact before_bind rfl (begins_list hlist ha items) fun _ _ _ => .flow .next
  | value v => exact lift_bind fun _ _ _ => .flow .next

/-- What has a name. The host word that evaluates takes an item each time, and so the
number of items is fuel enough. -/
theorem begins_invokeBy (ha : a.depth = depth) {fuel : Nat}
    (hfuel : a.frame.items.length ≤ fuel) (name : String) :
    Begins terms a (startName name) (Arena.invokeBy evalList fuel name) := by
  induction fuel generalizing a name with
  | zero =>
    refine bind (Work.depth_lift _) fun w a' hresolve => ?_
    obtain rfl : a = a' := (lift_resolve name).symm.trans (congrArg Prod.snd hresolve)
    cases w with
    | none => exact lift_bind fun _ _ _ => .flow .next
    | some w =>
      obtain ⟨pattern, action⟩ := w
      by_cases haction : action = .native (.host .eval)
      · subst haction
        have hitems : a.frame.items = [] := List.length_eq_zero_iff.mp (Nat.le_zero.mp hfuel)
        have hnothing : Begins terms { a with word := name } (startNative (.host .eval))
            (Work.lift (runHost .eval)) := begins_hostEval hitems
        exact begins_asWord name hnothing
      · exact begins_startAction hlist ha name haction
  | succ fuel ih =>
    refine bind (Work.depth_lift _) fun w a' hresolve => ?_
    obtain rfl : a = a' := (lift_resolve name).symm.trans (congrArg Prod.snd hresolve)
    cases w with
    | none => exact lift_bind fun _ _ _ => .flow .next
    | some w =>
      obtain ⟨pattern, action⟩ := w
      have hother : action ≠ .native (.host .eval) → Begins terms a (startAction name action)
          (Arena.runAction evalList name action) := begins_startAction hlist ha name
      -- only the host word that evaluates has a case of its own
      cases action with
      | native n =>
        cases n with
        | host h =>
          cases h with
          | eval =>
            refine begins_asWord name (bind (Work.depth_lift _) fun v a' hpop => ?_)
            have hdepth : a'.depth = a.depth := (congrArg (·.2.depth) hpop).symm
            have hless : a'.frame.items.length < a.frame.items.length := length_items_of_pop (a := { a with word := name }) hpop
            exact call (begins_startValue (fun name => ih (hdepth.trans ha) (by omega) name) v)
          | _ => exact hother nofun
        | _ => exact hother nofun
      | _ => exact hother nofun

theorem begins_invoke (ha : a.depth = depth) (name : String) :
    Begins terms a (startName name) (Arena.invoke evalList name) := by
  have hitems : Work.lift Run.items terms a = (.ok a.frame.items, a) := Work.lift_eq_self rfl
  exact (begins_invokeBy hlist ha (Nat.le_refl _) name).elsewhere rfl (Work.bind_ok hitems) rfl

theorem begins_items (ha : a.depth = depth) (items : List Value) :
    Begins terms a ((Pending.items items).resume .next) (Arena.evalItems evalList items) := by
  induction items generalizing a with
  | nil => exact .flow .next
  | cons v rest ih =>
    refine before_bind rfl (call (begins_startValue (begins_invoke hlist ha) v)) fun flow a' ha' => ?_
    cases flow with
    | next => exact ih (ha'.trans ha)
    | escape =>
      cases rest with
      | nil => exact .flow .escape
      | cons _ _ => exact .flow .escape

end Control

/-- A list that the ceiling lets through ends if its values do, one level down. -/
theorem ends_startList {items : List Value} {work : Work Flow}
    (hdepth : a.depth < terms.limits.maxDepth)
    (hitems : Begins terms { a with depth := a.depth + 1 } ((Pending.items items).resume .next) work) :
    Ends terms (startList items terms a) (Work.deeper work terms a) := by
  have hvalues := Ends.before_ok (p := .items items) (.flow .next _) hitems.ends
  rw [startList_of_lt hdepth]
  unfold Work.deeper
  rcases hwork : work terms { a with depth := a.depth + 1 } with ⟨e | flow, a'⟩
  · rw [hwork] at hvalues
    exact hvalues.before_error
  · rw [hwork] at hvalues
    exact hvalues.before_ok (p := .level) (.flow flow _)

/-- **Every list ends**, with the outcome of the evaluator: the levels that the
ceiling leaves are enough. -/
theorem begins_evalList {n : Nat} (hn : terms.limits.maxDepth - a.depth ≤ n)
    (items : List Value) : Begins terms a (startList items) (Arena.evalList n items) := by
  induction n generalizing a items with
  | zero => exact .error (startList_of_le (by omega)) rfl rfl
  | succ n ih =>
    by_cases hdepth : terms.limits.maxDepth ≤ a.depth
    · exact .error (startList_of_le hdepth) (if_pos hdepth) rfl
    · have hwork : Arena.evalList (n + 1) items terms a
          = Work.deeper (Arena.evalItems (Arena.evalList n) items) terms a := if_neg hdepth
      have hdeeper (b : Arena) (items : List Value) (hb : b.depth = a.depth + 1) :
          Begins terms b (startList items) (Arena.evalList n items) := ih (by omega) items
      have hitems : Begins terms { a with depth := a.depth + 1 }
          ((Pending.items items).resume .next) (Arena.evalItems (Arena.evalList n) items) :=
        begins_items hdeeper rfl items
      constructor
      · rw [hwork]
        exact ends_startList (Nat.lt_of_not_le hdepth) hitems
      · rw [hwork]
        exact congrArg (· - 1) hitems.depth

/-! ## Programs -/

section Programs

/-- Running a list with as many levels as the ceiling has. -/
theorem begins_evalList_maxDepth (a : Arena) (items : List Value) :
    Begins terms a (startList items) (Arena.evalList terms.limits.maxDepth items) :=
  begins_evalList (Nat.sub_le _ _) items

theorem begins_startToken (t : Token) (span : Span) :
    Begins terms a (startToken t span)
      (Arena.evalToken (Arena.invoke (Arena.evalList terms.limits.maxDepth)) t span) := by
  have hname (name : String) : Begins terms a (startName name)
      (Arena.invoke (Arena.evalList terms.limits.maxDepth) name) :=
    begins_invoke (fun b items _ => begins_evalList_maxDepth b items) rfl name
  have hquoted (q : QuotedWord) := begins_startValue hname (.scalar (.quoted q))
  cases t with
  | word name => exact call (hname name)
  | ref name => exact hquoted (.ref name)
  | backRef name => exact hquoted (.backRef name)
  | escaped text => exact hquoted (QuotedWord.ofText text)
  | attr path => exact hquoted (.attr path)
  | _ => exact bind rfl fun _ _ _ => lift_bind fun _ _ _ => .flow .next

/-- The outcome of a program as that of what goes on after it. -/
def goesOn (outcome : Except Failure Unit × Arena) : Except Failure Flow × Arena :=
  (outcome.1.map fun _ => .next, outcome.2)

theorem ends_startTokens (base : Nat) (program : List Lexeme) (a : Arena) :
    Ends terms (startTokens base program terms a)
      (goesOn (Arena.runTokens (Arena.evalList terms.limits.maxDepth) base program terms a)) := by
  induction program generalizing a with
  | nil =>
    simp only [startTokens, Arena.runTokens]
    split
    · exact .flow .next a
    · exact .error _ a
  | cons lexeme rest ih =>
    obtain ⟨t, span⟩ := lexeme
    have hothers (b : Arena) := Ends.before_ok (p := .tokens base rest) (.flow .next b) (ih b)
    simp only [startTokens, Arena.runTokens]
    cases opens t with
    | some kind => exact hothers _
    | none =>
      cases closes t with
      | some kind =>
        dsimp only
        split
        · exact .error _ a
        · rcases Arena.closeLiteral terms a with ⟨e | _, a'⟩
          · exact .error e a'
          · exact hothers a'
      | none =>
        dsimp only
        cases a.cell.kind with
        | eval =>
          dsimp only
          have hfirst : Ends terms (startToken t span terms a) _ := (begins_startToken t span).ends
          rcases hstart : startToken t span terms a with ⟨e | c, a'⟩
          · rw [hstart] at hfirst
            rw [hfirst.eq_of_error]
            exact .error e a'
          · rw [hstart] at hfirst
            rcases hwork : Arena.evalToken (Arena.invoke (Arena.evalList terms.limits.maxDepth)) t span
              terms a with ⟨e | _ | _, b⟩
            · rw [hwork] at hfirst
              exact hfirst.before_error
            · rw [hwork] at hfirst
              exact hfirst.before_ok (ih b)
            · rw [hwork] at hfirst
              exact hfirst.before_ok (p := .tokens base rest) (.flow .next b)
        | literal kind =>
          dsimp only
          rcases Arena.captureToken t span terms a with ⟨e | v, a'⟩
          · exact .error e a'
          · exact hothers _

/-- **Every program ends**, with the outcome of the evaluator. -/
theorem through_ofProgram (terms : Terms) (program : List Lexeme) (a : Arena) :
    let outcome := goesOn (Arena.runProgram program terms a)
    (Stage.ofProgram program a).Through terms [] ⟨.ended outcome.1, [], outcome.2⟩ := by
  have htokens : Ends terms (.ok ((Course.flow .next).before (.tokens a.current program)), a)
      (goesOn (Arena.runTokens (Arena.evalList terms.limits.maxDepth) a.current program terms a)) :=
    .before_ok (.flow .next a) (ends_startTokens a.current program a)
  have hprogram : Ends terms
      (.ok (((Course.flow .next).before (.tokens a.current program)).before (.program a.current)), a)
      (goesOn (Arena.runProgram program terms a)) := by
    unfold Arena.runProgram
    rcases hrun : Arena.runTokens (Arena.evalList terms.limits.maxDepth) a.current program terms a
      with ⟨e | _, a'⟩
    · rw [hrun] at htokens
      exact htokens.before_error
    · rw [hrun] at htokens
      exact htokens.before_ok (p := .program a.current) (.flow .next a')
  exact hprogram []

end Programs

end EntityBase.Machine
