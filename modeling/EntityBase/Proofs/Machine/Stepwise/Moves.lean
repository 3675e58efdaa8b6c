import EntityBase.Proofs.Machine.Arena.View
import EntityBase.Proofs.Machine.PlainWords
import EntityBase.Proofs.Machine.Sequence
import EntityBase.Proofs.Machine.Stepwise.Basic

/-!
# Moves — what a single step can do

A step opens a list or refuses it, begins a pass of a loop or refuses it, ends one of
them, hands a failure down, or does something **mild**: mild work leaves the depth
alone, opens no list and begins no pass, and fails for other reasons than a ceiling.
`Stage.Moves` is this enumeration, and every step is one of them. All that is kept
by steps is read off it case by case.
-/

namespace EntityBase.Machine

variable {α β : Type}

open Stage (on)

/-- **Plain runs reach no ceiling.** -/
theorem Run.Plain.not_ofCeiling {m : Run α} (h : m.Plain) {env : Env} {s t : State} {e : Failure}
    (hrun : m env s = (.error e, t)) : e.ofCeiling = false := by
  induction h generalizing env s with
  | step => cases hrun
  | env _ _ ih => exact ih env hrun
  | policy _ _ ih => exact ih env.limits.strictDefs hrun
  | @bind _ _ m f _ _ hm hf =>
    rcases bind_cases m f env s with ⟨x, u, hfirst, hbind⟩ | ⟨e', u, hfirst, hbind⟩
    · exact hf x (hbind.symm.trans hrun)
    · obtain ⟨⟩ := hbind.symm.trans hrun
      exact hm hfirst
  | fail e he =>
    obtain ⟨⟩ := hrun
    exact he
  | complain | invalid | incompatible =>
    obtain ⟨⟩ := hrun
    rfl
  | pop =>
    unfold Run.pop at hrun
    split at hrun
    · cases hrun
    · obtain ⟨⟩ := hrun
      rfl
  | store =>
    obtain ⟨frame, store?, selection, journal⟩ := s
    cases store? with
    | some s => cases hrun
    | none =>
      obtain ⟨⟩ := hrun
      rfl
  | setStore | journal => cases hrun
  | select f =>
    obtain ⟨frame, store?, selection, journal⟩ := s
    cases selection with
    | some sel => cases hrun
    | none =>
      obtain ⟨⟩ := hrun
      rfl

/-! ## Mild work -/

/-- Whether what waits is a loop. -/
def Pending.isLoop : Pending → Bool
  | .loop _ _ => true
  | _ => false

/-- A course on which no list is opened, no loop goes on and nothing fails. -/
structure Course.Mild (c : Course) : Prop where
  waiting : ∀ p ∈ c.waiting, p.isLevel = false ∧ p.isLoop = false
  fresh : ∀ body passes, c.focus = .call (.pass body passes) → passes = 0
  fine : ∀ e, c.focus ≠ .ended (.error e)

theorem Course.mild_flow (f : Flow) : (Course.flow f).Mild :=
  ⟨fun _ hp => absurd hp List.not_mem_nil, nofun, nofun⟩

theorem Course.mild_call {c : Call} (hc : ∀ body passes, c = .pass body passes → passes = 0) :
    (Course.call c []).Mild :=
  ⟨fun _ hp => absurd hp List.not_mem_nil, fun body passes h => hc body passes (Focus.call.inj h),
    nofun⟩

theorem Course.Mild.before {c : Course} {p : Pending} (h : c.Mild) (hlevel : p.isLevel = false)
    (hloop : p.isLoop = false) : (c.before p).Mild := by
  refine ⟨fun q hq => ?_, h.fresh, h.fine⟩
  rcases List.mem_append.mp hq with hq | hq
  · exact h.waiting q hq
  · obtain rfl := List.mem_singleton.mp hq
    exact ⟨hlevel, hloop⟩

/-- An outcome at a given depth: a result that is as expected, or a failure for another
reason than a ceiling. -/
inductive MildOutcome (P : α → Prop) (depth : Nat) : Except Failure α × Arena → Prop
  | ok {x : α} {a : Arena} (hdepth : a.depth = depth) (hx : P x) : MildOutcome P depth (.ok x, a)
  | error {e : Failure} {a : Arena} (hdepth : a.depth = depth) (he : e.ofCeiling = false) :
      MildOutcome P depth (.error e, a)

/-- Work that leaves the depth alone, gives what is expected and fails for other
reasons than a ceiling. -/
def Work.Mild (P : α → Prop) (w : Work α) : Prop := ∀ terms a, MildOutcome P a.depth (w terms a)

namespace Work.Mild

variable {P : α → Prop} {Q : β → Prop}

theorem pure {x : α} (hx : P x) : Mild P (Pure.pure x) := fun _ _ => .ok rfl hx

theorem lift {m : Run α} (h : m.Plain) : Mild (fun _ => True) (Work.lift m) := by
  intro terms a
  unfold Work.lift
  rcases hrun : m (a.env terms) a.state with ⟨e | x, s⟩
  · exact .error rfl (h.not_ofCeiling hrun)
  · exact .ok rfl trivial

theorem bind {w : Work α} {f : α → Work β} (hw : Mild P w) (hf : ∀ x, P x → Mild Q (f x)) :
    Mild Q (w >>= f) := by
  intro terms a
  change MildOutcome Q a.depth (Work.bind w f terms a)
  unfold Work.bind
  have hfirst := hw terms a
  generalize w terms a = outcome at hfirst
  cases hfirst with
  | error hdepth he => exact .error hdepth he
  | @ok x b hdepth hx =>
    have hsecond := hf x hx terms b
    rw [hdepth] at hsecond
    exact hsecond

theorem lift_bind {m : Run α} {f : α → Work β} (h : m.Plain) (hf : ∀ x, Mild Q (f x)) :
    Mild Q (Work.lift m >>= f) := (lift h).bind fun x _ => hf x

/-- A run that nothing is called after. -/
theorem flow {m : Run Flow} (h : m.Plain) :
    Mild Course.Mild (Work.lift m >>= fun f => Pure.pure (.flow f)) :=
  lift_bind h fun f => pure (Course.mild_flow f)

/-- A value that is pushed at the end. -/
theorem push (v : Value) :
    Mild Course.Mild (Work.lift (Run.push v) >>= fun _ => Pure.pure (.flow .next)) :=
  lift_bind (.push v) fun _ => pure (Course.mild_flow .next)

end Work.Mild

open Work.Mild

/-! ## The beginnings that are mild -/

theorem Course.mild_list (body : List Value) : (Course.call (.list body) []).Mild :=
  Course.mild_call nofun

theorem mild_openChild (frame : Frame) (body : List Value) (purpose : Purpose) :
    Work.Mild Course.Mild (Work.openChild frame body purpose) :=
  fun _ _ => .ok rfl ((Course.mild_list body).before rfl rfl)

theorem mild_mapNext (body gathered items : List Value) :
    Work.Mild Course.Mild (mapNext body gathered items) := by
  cases items with
  | nil => exact push _
  | cons v rest => exact mild_openChild _ _ _

theorem mild_filterNext (body gathered items : List Value) :
    Work.Mild Course.Mild (filterNext body gathered items) := by
  cases items with
  | nil => exact push _
  | cons v rest => exact mild_openChild _ _ _

theorem mild_reduceNext (body : List Value) (acc : Value) (items : List Value) :
    Work.Mild Course.Mild (reduceNext body acc items) := by
  cases items with
  | nil => exact push _
  | cons v rest => exact mild_openChild _ _ _

theorem mild_beginSelect : Work.Mild (fun _ => True) Work.beginSelect :=
  fun _ _ => .ok rfl trivial

theorem mild_endSelect : Work.Mild (fun _ => True) Work.endSelect :=
  fun _ _ => .ok rfl trivial

theorem mild_leaveChild : Work.Mild (fun _ => True) Work.leaveChild :=
  fun _ _ => .ok rfl trivial

theorem mild_selectNext (left : List Value) : Work.Mild Course.Mild (selectNext left) :=
  mild_endSelect.bind fun _ _ => push _

theorem mild_startControl (w : ControlWord) : Work.Mild Course.Mild (startControl w) := by
  have hlist (body : List Value) : Work.Mild Course.Mild (pure (.call (.list body) [])) :=
    pure (Course.mild_list body)
  cases w with
  | define => exact flow (plain_runControl (.inl rfl))
  | bind => exact flow (plain_runControl (.inr (.inl rfl)))
  | escape => exact flow (plain_runControl (.inr (.inr (.inl rfl))))
  | print => exact flow (plain_runControl (.inr (.inr (.inr rfl))))
  | spread => exact lift_bind .popList hlist
  | eval => exact lift_bind .popList fun body => mild_openChild _ _ _
  | ifTrue =>
    refine lift_bind .popList fun body => lift_bind .pop fun condition => ?_
    split
    · exact hlist body
    · exact pure (Course.mild_flow .next)
  | ifElse =>
    refine lift_bind .popList fun otherwise => lift_bind .popList fun body =>
      lift_bind .pop fun condition => ?_
    split
    · exact hlist body
    · exact hlist otherwise
  | loop =>
    exact lift_bind .popList fun body =>
      pure (Course.mild_call fun _ _ h => (Call.pass.inj h).2.symm)
  | map =>
    exact lift_bind .popList fun body => lift_bind .popList fun items => mild_mapNext body [] items
  | filter =>
    exact lift_bind .popList fun body => lift_bind .popList fun items => mild_filterNext body [] items
  | reduce =>
    exact lift_bind .popList fun body => lift_bind .pop fun acc => lift_bind .popList fun items =>
      mild_reduceNext body acc items
  | select =>
    exact lift_bind .popList fun body => lift_bind .popEntitySet fun _ =>
      mild_beginSelect.bind fun _ _ => mild_openChild _ _ _

theorem mild_startNative (n : Native) : Work.Mild Course.Mild (startNative n) := by
  cases n with
  | control w => exact mild_startControl w
  | shuffle w => exact flow (plain_runShuffle w).next
  | logic w => exact flow (plain_runLogic w).next
  | collection w => exact flow (plain_runCollection w).next
  | store w => exact flow (plain_runStoreWord w).next
  | select w => exact flow (plain_runSelectWord w).next
  | host w =>
    by_cases hw : w = .eval
    · subst hw
      exact lift_bind .pop fun v => pure (Course.mild_call nofun)
    · have hstart : startNative (.host w)
          = Work.lift (runHost w) >>= fun flow => pure (.flow flow) := by
        cases w <;> first | exact absurd rfl hw | rfl
      rw [hstart]
      exact flow (plain_runHost w)

theorem mild_startAction (name : String) (action : Action) :
    Work.Mild Course.Mild (startAction name action) := by
  cases action with
  | native n =>
    have hcall : (Course.call (.native n) []).Mild := Course.mild_call nofun
    exact fun _ a => .ok rfl (hcall.before rfl rfl)
  | body items => exact pure ((Course.mild_list items).before rfl rfl)
  | value v => exact push v

theorem mild_startName (name : String) : Work.Mild Course.Mild (startName name) := by
  refine lift_bind (.resolve name) fun w => ?_
  cases w with
  | none => exact push _
  | some w => exact mild_startAction name w.action

theorem mild_startQuoted (q : QuotedWord) : Work.Mild Course.Mild (startQuoted q) := by
  cases q with
  | word name => exact pure (Course.mild_call nofun)
  | _ => exact flow (plain_runQuoted nofun)

theorem mild_startValue (v : Value) : Work.Mild Course.Mild (startValue v) := by
  cases v with
  | scalar x =>
    cases x with
    | quoted q => exact mild_startQuoted q
    | _ => exact push _
  | _ => exact push _

theorem mild_captureToken (t : Token) (span : Span) :
    Work.Mild (fun _ => True) (Arena.captureToken t span) := by
  intro terms a
  unfold Arena.captureToken
  dsimp only
  rcases hrun : capture a.frame.items t span (a.envAt terms (Arena.evalPlace a.cells a.current))
    (a.stateAt (Arena.evalPlace a.cells a.current)) with ⟨e | v, s⟩
  · exact .error rfl ((plain_capture _ t span).not_ofCeiling hrun)
  · exact .ok rfl trivial

theorem mild_startToken (t : Token) (span : Span) : Work.Mild Course.Mild (startToken t span) := by
  cases t with
  | word name => exact mild_startValue (.quoted (.word name))
  | ref name => exact mild_startQuoted (.ref name)
  | backRef name => exact mild_startQuoted (.backRef name)
  | escaped text => exact mild_startQuoted _
  | attr path => exact mild_startQuoted (.attr path)
  | _ => exact (mild_captureToken _ _).bind fun v _ => push v

theorem mild_closeLiteral : Work.Mild (fun _ => True) Arena.closeLiteral := by
  intro terms a
  unfold Arena.closeLiteral
  cases (Arena.literalOf a.last).value with
  | ok v => exact .ok rfl trivial
  | error c =>
    have hplain : (do Run.complain "\x7d" c (← Run.items) : Run Unit).Plain :=
      .bind .items fun items => .complain _ _ _
    exact lift hplain terms a.leave

theorem mild_startTokens (base : Nat) (program : List Lexeme) :
    Work.Mild Course.Mild (startTokens base program) := by
  intro terms a
  cases program with
  | nil =>
    simp only [startTokens]
    split
    · exact .ok rfl (Course.mild_flow .next)
    · exact .error rfl rfl
  | cons lexeme rest =>
    obtain ⟨t, span⟩ := lexeme
    have hothers : ((Course.flow .next).before (.tokens base rest)).Mild :=
      (Course.mild_flow .next).before rfl rfl
    simp only [startTokens]
    cases opens t with
    | some kind => exact .ok rfl hothers
    | none =>
      cases closes t with
      | some kind =>
        dsimp only
        split
        · exact .error rfl rfl
        · have hclose := mild_closeLiteral terms a
          generalize Arena.closeLiteral terms a = outcome at hclose
          cases hclose with
          | ok hdepth _ => exact .ok hdepth hothers
          | error hdepth he => exact .error hdepth he
      | none =>
        dsimp only
        cases a.cell.kind with
        | eval =>
          have hstart := mild_startToken t span terms a
          generalize startToken t span terms a = outcome at hstart
          cases hstart with
          | ok hdepth hc => exact .ok hdepth (hc.before rfl rfl)
          | error hdepth he => exact .error hdepth he
        | literal kind =>
          have hcapture := mild_captureToken t span terms a
          generalize Arena.captureToken t span terms a = outcome at hcapture
          cases hcapture with
          | ok hdepth _ => exact .ok hdepth hothers
          | error hdepth he => exact .error hdepth he

theorem mild_next (purpose : Purpose) (left : List Value) :
    Work.Mild Course.Mild (purpose.next left) := by
  cases purpose with
  | eval => exact push _
  | map => exact mild_mapNext _ _ _
  | filter => exact mild_filterNext _ _ _
  | reduce => exact mild_reduceNext _ _ _
  | select =>
    refine lift_bind plain_selection fun settings => ?_
    split
    · exact mild_selectNext left
    · exact mild_openChild _ _ _
  | read => exact mild_selectNext left

theorem mild_resume {p : Pending} (hlevel : p.isLevel = false) (hloop : p.isLoop = false)
    (flow : Flow) : Work.Mild Course.Mild (p.resume flow) := by
  have hon (flow : Flow) : Work.Mild Course.Mild (pure (.flow flow)) := pure (Course.mild_flow flow)
  cases p with
  | level => cases hlevel
  | loop => cases hloop
  | items rest =>
    cases rest with
    | nil => exact hon flow
    | cons v rest =>
      cases flow with
      | escape => exact hon .escape
      | next =>
        have hcall : (Course.call (.value v) []).Mild := Course.mild_call nofun
        exact pure (hcall.before rfl rfl)
  | word previous => exact fun _ _ => .ok rfl (Course.mild_flow flow)
  | absorb => exact hon .next
  | child purpose => exact mild_leaveChild.bind fun left _ => mild_next purpose left
  | tokens base rest =>
    cases flow with
    | next => exact mild_startTokens base rest
    | escape => exact hon .next
  | program => exact hon flow

/-! ## Moves -/

/-- **What a single step can do.** -/
inductive Stage.Moves (terms : Terms) : Stage → Stage → Prop
  /-- nothing is left to do -/
  | rests (r : Except Failure Flow) (a : Arena) : Moves terms ⟨.ended r, [], a⟩ ⟨.ended r, [], a⟩
  | opens (items : List Value) (w : List Pending) (a : Arena)
      (h : a.depth < terms.limits.maxDepth) :
      Moves terms ⟨.call (.list items), w, a⟩
        ⟨.ended (.ok .next), .items items :: .level :: w, { a with depth := a.depth + 1 }⟩
  | tooDeep (items : List Value) (w : List Pending) (a : Arena)
      (h : terms.limits.maxDepth ≤ a.depth) :
      Moves terms ⟨.call (.list items), w, a⟩
        ⟨.ended (.error (.depthExceeded terms.limits.maxDepth)), w, a⟩
  | closes (flow : Flow) (w : List Pending) (a : Arena) :
      Moves terms ⟨.ended (.ok flow), .level :: w, a⟩
        ⟨.ended (.ok flow), w, { a with depth := a.depth - 1 }⟩
  | pass (body : List Value) (passes : Nat) (w : List Pending) (a : Arena)
      (h : passes < terms.limits.loopLimit) :
      Moves terms ⟨.call (.pass body passes), w, a⟩
        ⟨.call (.list body), .loop body (passes + 1) :: w, a⟩
  | runsAway (body : List Value) (passes : Nat) (w : List Pending) (a : Arena)
      (h : terms.limits.loopLimit ≤ passes) :
      Moves terms ⟨.call (.pass body passes), w, a⟩
        ⟨.ended (.error (.runawayLoop terms.limits.loopLimit)), w, a⟩
  /-- a pass left something true on top -/
  | again (body : List Value) (passes : Nat) (w : List Pending) (a : Arena) {v : Value}
      {rest : List Value} (hitems : a.frame.items = v :: rest) (hv : v.truthy = true) :
      Moves terms ⟨.ended (.ok .next), .loop body passes :: w, a⟩
        ⟨.call (.pass body passes), w, a.setFrame { a.frame with items := rest }⟩
  /-- a loop ends -/
  | done (flow : Flow) (body : List Value) (passes : Nat) (w : List Pending) {a a' : Arena}
      (hdepth : a'.depth = a.depth) :
      Moves terms ⟨.ended (.ok flow), .loop body passes :: w, a⟩ ⟨.ended (.ok .next), w, a'⟩
  /-- a failure is handed down -/
  | fails (e : Failure) (p : Pending) (w : List Pending) (a : Arena) :
      Moves terms ⟨.ended (.error e), p :: w, a⟩ ⟨.ended (.error e), w, p.unwind a⟩
  | starts (c : Call) (w : List Pending) (a : Arena) (hmild : c.start.Mild Course.Mild) :
      Moves terms ⟨.call c, w, a⟩ (on w (c.start terms a))
  | resumes (flow : Flow) (p : Pending) (w : List Pending) (a : Arena)
      (hlevel : p.isLevel = false) (hloop : p.isLoop = false)
      (hmild : (p.resume flow).Mild Course.Mild) :
      Moves terms ⟨.ended (.ok flow), p :: w, a⟩ (on w (p.resume flow terms a))

theorem lift_popIf_nil {terms : Terms} {a : Arena} (h : a.frame.items = []) :
    Work.lift (Run.popIf .any) terms a = (.ok none, a) := by
  have hstate : a.state.frame.items = [] := h
  refine Work.lift_eq_self ?_
  unfold Run.popIf
  rw [hstate]

theorem lift_popIf_cons {terms : Terms} {a : Arena} {v : Value} {rest : List Value}
    (h : a.frame.items = v :: rest) :
    Work.lift (Run.popIf .any) terms a
      = (.ok (some v), a.setFrame { a.frame with items := rest }) := by
  have hstate : a.state.frame.items = v :: rest := h
  rw [Arena.setFrame_eq_put]
  refine Work.lift_eq ?_
  unfold Run.popIf
  rw [hstate]
  exact if_pos rfl

/-- What a pass left on top is taken, and it decides whether the next one is due. -/
theorem resume_loop {terms : Terms} {a : Arena} {v : Value} {rest : List Value}
    (h : a.frame.items = v :: rest) (body : List Value) (passes : Nat) :
    (Pending.loop body passes).resume .next terms a
      = (.ok (if v.truthy then .call (.pass body passes) [] else .flow .next),
        a.setFrame { a.frame with items := rest }) := by
  refine (Work.bind_ok (lift_popIf_cons h)).trans ?_
  dsimp only
  split
  · rfl
  · rfl

/-- After a pass of a loop. -/
theorem Stage.moves_loop {terms : Terms} (flow : Flow) (body : List Value) (passes : Nat)
    (w : List Pending) (a : Arena) :
    Moves terms ⟨.ended (.ok flow), .loop body passes :: w, a⟩
      (on w ((Pending.loop body passes).resume flow terms a)) := by
  cases flow with
  | escape => exact .done .escape body passes w rfl
  | next =>
    cases hitems : a.frame.items with
    | nil =>
      have hresume : (Pending.loop body passes).resume .next terms a = (.ok (.flow .next), a) :=
        Work.bind_ok (lift_popIf_nil hitems)
      rw [hresume]
      exact .done .next body passes w rfl
    | cons v rest =>
      rw [resume_loop hitems]
      split
      · exact .again body passes w a hitems ‹_›
      · exact .done .next body passes w rfl

theorem Stage.moves_step (terms : Terms) (s : Stage) : s.Moves terms (s.step terms) := by
  obtain ⟨focus, waiting, a⟩ := s
  cases focus with
  | call c =>
    cases c with
    | list items =>
      rcases Nat.lt_or_ge a.depth terms.limits.maxDepth with h | h
      · rw [step_list_of_lt h]
        exact .opens items waiting a h
      · rw [step_list_of_le h]
        exact .tooDeep items waiting a h
    | pass body passes =>
      rcases Nat.lt_or_ge passes terms.limits.loopLimit with h | h
      · rw [step_pass_of_lt h]
        exact .pass body passes waiting a h
      · rw [step_pass_of_le h]
        exact .runsAway body passes waiting a h
    | value v => exact .starts _ waiting a (mild_startValue v)
    | name name => exact .starts _ waiting a (mild_startName name)
    | native n => exact .starts _ waiting a (mild_startNative n)
  | ended r =>
    cases waiting with
    | nil => exact .rests r a
    | cons p w =>
      cases r with
      | error e => exact .fails e p w a
      | ok flow =>
        cases p with
        | level => exact .closes flow w a
        | loop body passes => exact moves_loop flow body passes w a
        | _ => exact .resumes flow _ w a rfl rfl (mild_resume rfl rfl flow)

end EntityBase.Machine
