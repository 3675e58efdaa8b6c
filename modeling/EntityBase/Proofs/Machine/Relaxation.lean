import EntityBase.Proofs.Machine.Arena.Program

/-!
# Relaxation — wider limits change no successful run

Limits stand in the way of a run in three places: a list is refused at the ceiling
on the depth, a loop after its last pass, and an unknown definition where it is a
failure. Beyond that a run reads its limits only to word a failure. So a run that
succeeds goes the same way under limits that are wider, and comes to the same
arena.

A plain run is compared with itself under the wider limits (`Run.Lax`). Work on an
arena is compared with other work (`Work.Carries`), since a wider ceiling leaves a
list more levels and a loop more passes: the success of the one carries over to the
other. This passes through sequences, frames, words and lists. `carries_evalList`
closes the circle by induction on the levels.
-/

namespace EntityBase.Machine

variable {α β : Type}

/-- Limits are within others if no ceiling is higher than there and an unknown
definition is a failure wherever it is one there. -/
structure Limits.Within (l l' : Limits) : Prop where
  loopLimit : l.loopLimit ≤ l'.loopLimit
  maxDepth : l.maxDepth ≤ l'.maxDepth
  strictDefs : l'.strictDefs = true → l.strictDefs = true

/-! ## Plain runs -/

/-- A run whose success is the same under wider limits. -/
def Run.Lax (m : Run α) : Prop :=
  ∀ (env : Env) limits s x t, env.limits.Within limits → m env s = (.ok x, t) →
    m { env with limits } s = (.ok x, t)

/-- Where a run reads nothing of its surroundings, its limits do not matter. -/
theorem Run.Lax.of_eq {m : Run α} (h : ∀ env limits s, m { env with limits } s = m env s) :
    m.Lax := fun env limits s _ _ _ hrun => (h env limits s).trans hrun

/-- **Plain runs succeed under wider limits as before.** -/
theorem Run.Plain.lax {m : Run α} (h : m.Plain) : m.Lax := by
  induction h with
  | step | pop | setStore | journal => exact .of_eq fun _ _ _ => rfl
  | store =>
    intro env limits s x t _ hrun
    obtain ⟨frame, store?, selection, journal⟩ := s
    cases store? with
    | none => cases hrun
    | some _ => exact hrun
  | select f =>
    intro env limits s x t _ hrun
    obtain ⟨frame, store?, selection, journal⟩ := s
    cases selection with
    | none => cases hrun
    | some _ => exact hrun
  | fail | complain | invalid | incompatible => exact fun _ _ _ _ _ _ h => nomatch h
  | @env _ f _ hshift ih =>
    intro env limits s x t hwithin hrun
    change f { env with limits } { env with limits } s = _
    rw [hshift env env.word limits]
    exact ih env env limits s x t hwithin hrun
  | @policy _ f _ hlax ih =>
    intro env limits s x t hwithin hrun
    change f env.limits.strictDefs env s = _ at hrun
    change f limits.strictDefs { env with limits } s = _
    have hsame := ih _ env limits s x t hwithin hrun
    cases hstrict : limits.strictDefs with
    | true => rwa [hwithin.strictDefs hstrict] at hsame
    | false =>
      cases hbefore : env.limits.strictDefs with
      | true => exact hlax _ _ _ _ (hbefore ▸ hsame)
      | false => rwa [hbefore] at hsame
  | @bind _ _ m f _ _ hm hf =>
    intro env limits s x t hwithin hrun
    rcases bind_cases m f env s with ⟨y, u, hfirst, hbind⟩ | ⟨e, u, -, hbind⟩
    · rw [bind_ok (hm env limits s y u hwithin hfirst)]
      exact hf y env limits u x t hwithin (hbind.symm.trans hrun)
    · exact nomatch hbind.symm.trans hrun

/-! ## Work on an arena -/

namespace Work

variable {w w' : Work α}

/-- The success of work carries over to other work under wider limits, with the same
result and the same arena after it. -/
def Carries (w w' : Work α) : Prop :=
  ∀ terms limits a x b, terms.limits.Within limits → w terms a = (.ok x, b) →
    w' { terms with limits } a = (.ok x, b)

/-- What comes second runs on what the first left. -/
theorem bind_eq_ok {f : α → Work β} {terms : Terms} {a b : Arena} {y : β}
    (h : (w >>= f) terms a = (.ok y, b)) :
    ∃ x c, w terms a = (.ok x, c) ∧ f x terms c = (.ok y, b) := by
  rcases hw : w terms a with ⟨e | x, c⟩
  · rw [bind_error hw] at h
    cases h
  · rw [bind_ok hw] at h
    exact ⟨x, c, rfl, h⟩

namespace Carries

theorem fail (e : Failure) : Carries (Work.fail e : Work α) w' := fun _ _ _ _ _ _ h => nomatch h

theorem pure (x : α) : Carries (Pure.pure x) (Pure.pure x) := fun _ _ _ _ _ _ h => h

theorem lift {m : Run α} (h : m.Plain) : Carries (Work.lift m) (Work.lift m) := by
  intro terms limits a x b hwithin hrun
  rcases hm : m (a.env terms) a.state with ⟨r, s⟩
  have hlift : Work.lift m terms a = (r, a.put s) := by rw [Work.lift, hm]
  obtain ⟨rfl, rfl⟩ := Prod.mk.inj (hlift.symm.trans hrun)
  have hlax : m (a.env { terms with limits }) a.state = (.ok x, s) :=
    h.lax _ limits _ _ _ hwithin hm
  rw [Work.lift, hlax]

theorem bind {f f' : α → Work β} (hw : Carries w w') (hf : ∀ x, Carries (f x) (f' x)) :
    Carries (w >>= f) (w' >>= f') := by
  intro terms limits a y b hwithin hrun
  obtain ⟨x, c, hfirst, hsecond⟩ := bind_eq_ok hrun
  rw [bind_ok (hw terms limits a x c hwithin hfirst)]
  exact hf x terms limits c y b hwithin hsecond

/-- A plain step before. -/
theorem lift_bind {m : Run α} {f f' : α → Work β} (h : m.Plain)
    (hf : ∀ x, Carries (f x) (f' x)) : Carries (Work.lift m >>= f) (Work.lift m >>= f') :=
  (lift h).bind hf

/-- What is read of the surroundings may be read of the limits. -/
theorem env {f f' : Env → Work β}
    (hf : ∀ env limits, env.limits.Within limits → Carries (f env) (f' { env with limits })) :
    Carries (Work.lift Run.env >>= f) (Work.lift Run.env >>= f') :=
  fun terms limits a y b hwithin hrun =>
    hf (a.env terms) limits hwithin terms limits _ y b hwithin hrun

theorem ite {v v' : Work α} (c : Prop) [Decidable c] (h : Carries w w') (h' : Carries v v') :
    Carries (if c then w else v) (if c then w' else v') := by
  by_cases hc : c
  · rw [if_pos hc, if_pos hc]
    exact h
  · rw [if_neg hc, if_neg hc]
    exact h'

/-- Work in other surroundings, of which what it gives and leaves is made. -/
theorem around (hw : Carries w w') (before : Arena → Arena)
    (after : Arena → Except Failure α × Arena → Except Failure β × Arena)
    (herror : ∀ a e b x c, after a (.error e, b) ≠ (.ok x, c)) :
    Carries (fun terms a => after a (w terms (before a)))
      (fun terms a => after a (w' terms (before a))) := by
  intro terms limits a x b hwithin hrun
  dsimp only at hrun ⊢
  rcases hbefore : w terms (before a) with ⟨e | y, c⟩
  · rw [hbefore] at hrun
    exact absurd hrun (herror a e c x b)
  · rw [hw terms limits _ y c hwithin hbefore, ← hbefore]
    exact hrun

theorem asWord (hw : Carries w w') (name : String) :
    Carries (Work.asWord name w) (Work.asWord name w') :=
  hw.around (fun a => { a with word := name }) (fun a p => (p.1, { p.2 with word := a.word }))
    fun _ _ _ _ _ => nofun

theorem deeper (hw : Carries w w') : Carries (Work.deeper w) (Work.deeper w') :=
  hw.around (fun a => { a with depth := a.depth + 1 })
    (fun _ p => (p.1, { p.2 with depth := p.2.depth - 1 })) fun _ _ _ _ _ => nofun

theorem onChild {w w' : Work Flow} (hw : Carries w w') (frame : Frame) :
    Carries (Work.onChild frame w) (Work.onChild frame w') :=
  hw.around (fun a => a.enter { frame })
    (fun _ p => (p.1.map fun _ => p.2.last.frame.items, p.2.leave)) fun _ _ _ _ _ => nofun

theorem selecting (hw : Carries w w') : Carries (Work.selecting w) (Work.selecting w') :=
  hw.around (fun a => { a with selections := {} :: a.selections })
    (fun _ p => (p.1.map fun x => (x, p.2.selections.head?),
      { p.2 with selections := p.2.selections.tail })) fun _ _ _ _ _ => nofun

end Carries

end Work

open Work (Carries)
open Work.Carries
open Run (Plain)

/-! ## Words that run lists -/

section Control

variable {evalList evalList' : List Value → Work Flow}
  (hlist : ∀ items, Carries (evalList items) (evalList' items))

include hlist

/-- A loop may go on for longer. -/
theorem carries_loopPasses {n n' : Nat} (hn : n ≤ n') (limit limit' : Nat) (body : List Value) :
    Carries (Arena.loopPasses evalList limit body n)
      (Arena.loopPasses evalList' limit' body n') := by
  induction n generalizing n' with
  | zero => exact fail _
  | succ n ih =>
    obtain ⟨n', rfl⟩ : ∃ k, n' = k + 1 := ⟨n' - 1, by omega⟩
    refine (hlist body).bind fun flow => ?_
    cases flow with
    | escape => exact pure ()
    | next =>
      refine lift_bind (Plain.popIf .any) fun top => ?_
      cases top with
      | none => exact pure ()
      | some v => exact ite _ (ih (by omega)) (pure ())

theorem carries_mapItems (body gathered items : List Value) :
    Carries (Arena.mapItems evalList body gathered items)
      (Arena.mapItems evalList' body gathered items) := by
  induction items generalizing gathered with
  | nil => exact pure gathered
  | cons v rest ih => exact ((hlist body).onChild _).bind fun left => ih (left ++ gathered)

theorem carries_filterItems (body gathered items : List Value) :
    Carries (Arena.filterItems evalList body gathered items)
      (Arena.filterItems evalList' body gathered items) := by
  induction items generalizing gathered with
  | nil => exact pure gathered
  | cons v rest ih => exact ((hlist body).onChild _).bind fun left => ih _

theorem carries_reduceItems (body : List Value) (acc : Value) (items : List Value) :
    Carries (Arena.reduceItems evalList body acc items)
      (Arena.reduceItems evalList' body acc items) := by
  induction items generalizing acc with
  | nil => exact pure acc
  | cons v rest ih => exact ((hlist body).onChild _).bind fun left => ih _

theorem carries_runSelect (body : List Value) :
    Carries (Arena.runSelect evalList body) (Arena.runSelect evalList' body) := by
  have hitems : Carries (Arena.selectItems evalList body) (Arena.selectItems evalList' body) :=
    ((hlist body).onChild _).bind fun left => lift_bind plain_selection fun settings =>
      ite _ (pure left) ((hlist implicitReader).onChild _)
  exact hitems.selecting.bind fun left => lift (Plain.push _)

theorem carries_runControl (w : ControlWord) :
    Carries (Arena.runControl evalList w) (Arena.runControl evalList' w) := by
  have hplain {w : ControlWord} (hw : w = .define ∨ w = .bind ∨ w = .escape ∨ w = .print) :
      Carries (Work.lift (runControl (fun _ => Pure.pure .next) w))
        (Work.lift (runControl (fun _ => Pure.pure .next) w)) := lift (plain_runControl hw)
  cases w with
  | define => exact hplain (.inl rfl)
  | bind => exact hplain (.inr (.inl rfl))
  | escape => exact hplain (.inr (.inr (.inl rfl)))
  | print => exact hplain (.inr (.inr (.inr rfl)))
  | spread => exact lift_bind Plain.popList fun body => hlist body
  | eval =>
    exact lift_bind Plain.popList fun body => ((hlist body).onChild _).bind fun left =>
      lift_bind (Plain.push _) fun _ => pure _
  | ifTrue =>
    exact lift_bind Plain.popList fun body => lift_bind Plain.pop fun condition =>
      ite _ (hlist body) (pure _)
  | ifElse =>
    exact lift_bind Plain.popList fun otherwise => lift_bind Plain.popList fun body =>
      lift_bind Plain.pop fun condition => ite _ (hlist body) (hlist otherwise)
  | loop =>
    exact lift_bind Plain.popList fun body => env fun e limits hwithin =>
      (carries_loopPasses hlist hwithin.loopLimit _ _ body).bind fun _ => pure _
  | map =>
    exact lift_bind Plain.popList fun body => lift_bind Plain.popList fun items =>
      (carries_mapItems hlist body [] items).bind fun gathered =>
        lift_bind (Plain.push _) fun _ => pure _
  | filter =>
    exact lift_bind Plain.popList fun body => lift_bind Plain.popList fun items =>
      (carries_filterItems hlist body [] items).bind fun gathered =>
        lift_bind (Plain.push _) fun _ => pure _
  | reduce =>
    exact lift_bind Plain.popList fun body => lift_bind Plain.pop fun acc =>
      lift_bind Plain.popList fun items => (carries_reduceItems hlist body acc items).bind fun v =>
        lift_bind (Plain.push v) fun _ => pure _
  | select =>
    exact lift_bind Plain.popList fun body => lift_bind Plain.popEntitySet fun _ =>
      (carries_runSelect hlist body).bind fun _ => pure _

/-! ## Names, values and lists -/

theorem carries_runNative (n : Native) :
    Carries (Arena.runNative evalList n) (Arena.runNative evalList' n) := by
  cases n with
  | control w => exact carries_runControl hlist w
  | shuffle w => exact lift (plain_runShuffle w).next
  | logic w => exact lift (plain_runLogic w).next
  | collection w => exact lift (plain_runCollection w).next
  | store w => exact lift (plain_runStoreWord w).next
  | select w => exact lift (plain_runSelectWord w).next
  | host w => exact lift (plain_runHost w)

theorem carries_runAction (name : String) (action : Action) :
    Carries (Arena.runAction evalList name action) (Arena.runAction evalList' name action) := by
  cases action with
  | native n => exact (carries_runNative hlist n).asWord name
  | body items => exact (hlist items).bind fun _ => pure _
  | value v => exact lift (Plain.push v).next

end Control

section Lists

theorem carries_evalQuoted {invoke invoke' : String → Work Flow}
    (hname : ∀ name, Carries (invoke name) (invoke' name)) (q : QuotedWord) :
    Carries (Arena.evalQuoted invoke q) (Arena.evalQuoted invoke' q) := by
  -- anything but a word runs no name
  have hplain (q : QuotedWord) (hq : ∀ name, q ≠ .word name) :
      Carries (Work.lift (runQuoted (fun _ => Pure.pure .next) q))
        (Work.lift (runQuoted (fun _ => Pure.pure .next) q)) :=
    lift (plain_runQuoted hq)
  cases q with
  | word name => exact hname name
  | ref name => exact hplain (.ref name) (by simp)
  | backRef name => exact hplain (.backRef name) (by simp)
  | escaped depth rest => exact hplain (.escaped depth rest) (by simp)
  | attr path => exact hplain (.attr path) (by simp)

theorem carries_evalValueBy {invoke invoke' : String → Work Flow}
    (hname : ∀ name, Carries (invoke name) (invoke' name)) (v : Value) :
    Carries (Arena.evalValueBy invoke v) (Arena.evalValueBy invoke' v) := by
  cases v with
  | scalar s =>
    cases s with
    | quoted q => exact carries_evalQuoted hname q
    | _ => exact lift (Plain.push _).next
  | _ => exact lift (Plain.push _).next

variable {evalList evalList' : List Value → Work Flow}
  (hlist : ∀ items, Carries (evalList items) (evalList' items))

include hlist

theorem carries_invokeBy (fuel : Nat) (name : String) :
    Carries (Arena.invokeBy evalList fuel name) (Arena.invokeBy evalList' fuel name) := by
  induction fuel generalizing name with
  | zero =>
    refine lift_bind (Plain.resolve name) fun w => ?_
    cases w with
    | none => exact lift (Plain.push _).next
    | some w => exact carries_runAction hlist name w.action
  | succ fuel ih =>
    refine lift_bind (Plain.resolve name) fun w => ?_
    cases w with
    | none => exact lift (Plain.push _).next
    | some w =>
      obtain ⟨pattern, action⟩ := w
      -- only the host word that evaluates has a case of its own
      have hother := carries_runAction hlist name action
      cases action with
      | native n =>
        cases n with
        | host h =>
          cases h with
          | eval => exact (lift_bind Plain.pop fun v => carries_evalValueBy ih v).asWord name
          | _ => exact hother
        | _ => exact hother
      | _ => exact hother

theorem carries_invoke (name : String) :
    Carries (Arena.invoke evalList name) (Arena.invoke evalList' name) :=
  lift_bind Plain.items fun items => carries_invokeBy hlist items.length name

theorem carries_evalItems (items : List Value) :
    Carries (Arena.evalItems evalList items) (Arena.evalItems evalList' items) := by
  induction items with
  | nil => exact pure _
  | cons v rest ih =>
    refine (carries_evalValueBy (carries_invoke hlist) v).bind fun flow => ?_
    cases flow with
    | next => exact ih
    | escape => exact pure _

end Lists

/-- **A list runs on more levels as before**: a list that is not refused at the
ceiling is not refused at a higher one. -/
theorem carries_evalList {n n' : Nat} (hn : n ≤ n') (items : List Value) :
    Carries (Arena.evalList n items) (Arena.evalList n' items) := by
  induction n generalizing n' items with
  | zero => exact fun _ _ _ _ _ _ h => nomatch h
  | succ n ih =>
    obtain ⟨n', rfl⟩ : ∃ k, n' = k + 1 := ⟨n' - 1, by omega⟩
    have hlists := fun items => ih (Nat.le_of_succ_le_succ hn) items
    have hitems := (carries_evalItems hlists items).deeper
    intro terms limits a x b hwithin hrun
    simp only [Arena.evalList] at hrun ⊢
    by_cases hdepth : terms.limits.maxDepth ≤ a.depth
    · rw [if_pos hdepth] at hrun
      cases hrun
    · rw [if_neg hdepth] at hrun
      have hdeeper : ¬ limits.maxDepth ≤ a.depth :=
        fun h => hdepth (Nat.le_trans hwithin.maxDepth h)
      refine (if_neg hdeeper).trans ?_
      exact hitems terms limits a x b hwithin hrun

/-! ## Tokens and programs -/

theorem carries_captureToken (t : Token) (span : Span) :
    Carries (Arena.captureToken t span) (Arena.captureToken t span) := by
  intro terms limits a x b hwithin hrun
  obtain ⟨hresult, rfl⟩ := Prod.mk.inj hrun
  rcases hcapture : capture a.frame.items t span (a.envAt terms (Arena.evalPlace a.cells a.current))
    (a.stateAt (Arena.evalPlace a.cells a.current)) with ⟨r, s⟩
  rw [hcapture] at hresult
  subst hresult
  have hsame := (plain_capture ..).lax _ limits _ _ _ hwithin hcapture
  exact congrArg (fun p => (p.1, a)) hsame

theorem carries_closeLiteral : Carries Arena.closeLiteral Arena.closeLiteral := by
  intro terms limits a x b hwithin hrun
  unfold Arena.closeLiteral at hrun ⊢
  cases hvalue : (Arena.literalOf a.last).value with
  | ok v =>
    rw [hvalue] at hrun
    exact hrun
  | error c =>
    rw [hvalue] at hrun
    exact nomatch hrun

theorem carries_evalToken {invoke invoke' : String → Work Flow}
    (hname : ∀ name, Carries (invoke name) (invoke' name)) (t : Token) (span : Span) :
    Carries (Arena.evalToken invoke t span) (Arena.evalToken invoke' t span) := by
  let pushed (t : Token) : Work Flow :=
    Arena.captureToken t span >>= fun v => Work.lift (Run.push v) >>= fun _ => Pure.pure Flow.next
  have hpushed (t : Token) : Carries (pushed t) (pushed t) :=
    (carries_captureToken t span).bind fun v => lift_bind (Plain.push v) fun _ => pure _
  cases t with
  | word name => exact hname name
  | ref name => exact carries_evalQuoted hname (.ref name)
  | backRef name => exact carries_evalQuoted hname (.backRef name)
  | escaped text => exact carries_evalQuoted hname (QuotedWord.ofText text)
  | attr path => exact carries_evalQuoted hname (.attr path)
  | _ => exact hpushed _

/-- The tokens of a program go one after the other as before. -/
theorem carries_runTokens {evalList evalList' : List Value → Work Flow}
    (hlist : ∀ items, Carries (evalList items) (evalList' items)) (base : Nat)
    (program : List Lexeme) :
    Carries (Arena.runTokens evalList base program) (Arena.runTokens evalList' base program) := by
  induction program with
  | nil => exact fun _ _ _ _ _ _ h => h
  | cons lexeme rest ih =>
    obtain ⟨t, span⟩ := lexeme
    intro terms limits a x b hwithin hrun
    cases hopen : opens t with
    | some kind =>
      rw [Arena.runTokens_open hopen] at hrun ⊢
      exact ih terms limits _ x b hwithin hrun
    | none =>
      cases hclose : closes t with
      | some kind =>
        rw [Arena.runTokens_close hopen hclose] at hrun ⊢
        by_cases hwrong : a.current = base ∨ a.cell.kind ≠ .literal kind
        · rw [if_pos hwrong] at hrun
          cases hrun
        · rw [if_neg hwrong] at hrun ⊢
          rcases hfirst : Arena.closeLiteral terms a with ⟨e | _, c⟩
          · rw [hfirst] at hrun
            cases hrun
          · rw [hfirst] at hrun
            rw [carries_closeLiteral terms limits a () c hwithin hfirst]
            exact ih terms limits c x b hwithin hrun
      | none =>
        cases hkind : a.cell.kind with
        | literal kind =>
          rw [Arena.runTokens_inside hopen hclose hkind] at hrun ⊢
          rcases hfirst : Arena.captureToken t span terms a with ⟨e | v, c⟩
          · rw [hfirst] at hrun
            cases hrun
          · rw [hfirst] at hrun
            rw [carries_captureToken t span terms limits a v c hwithin hfirst]
            exact ih terms limits (c.push v) x b hwithin hrun
        | eval =>
          have htoken := carries_evalToken (carries_invoke hlist) t span
          rw [Arena.runTokens_outside hopen hclose hkind] at hrun ⊢
          rcases hfirst : Arena.evalToken (Arena.invoke evalList) t span terms a with ⟨e | flow, c⟩
          · rw [hfirst] at hrun
            cases hrun
          · rw [hfirst] at hrun
            rw [htoken terms limits a flow c hwithin hfirst]
            cases flow with
            | next => exact ih terms limits c x b hwithin hrun
            | escape => exact hrun

theorem carries_runProgram (program : List Lexeme) :
    Carries (Arena.runProgram program) (Arena.runProgram program) := by
  intro terms limits a x b hwithin hrun
  have htokens := carries_runTokens (carries_evalList hwithin.maxDepth) a.current program
  unfold Arena.runProgram at hrun ⊢
  rcases hfirst : Arena.runTokens (Arena.evalList terms.limits.maxDepth) a.current program terms a
    with ⟨e | _, c⟩
  · rw [hfirst] at hrun
    cases hrun
  · rw [hfirst] at hrun
    rw [htokens terms limits a () c hwithin hfirst]
    exact hrun

/-- **Wider limits change no successful run.** If a source runs well on an arena under
some limits, then under limits with ceilings at least as high, with no failure for an
unknown definition where there was none, and with whatever a failure shows, it runs
well too, and the arena after it is the same: the items, the words and the store, and
what was printed. -/
theorem wider_limits_same_run {terms : Terms} {limits : Limits} (h : terms.limits.Within limits)
    (options : RunOptions) (source : String) (a b : Arena)
    (hrun : Arena.runWith options source terms a = (.ok (), b)) :
    Arena.runWith options source { terms with limits } a = (.ok (), b) := by
  unfold Arena.runWith at hrun ⊢
  cases hsource : Lexer.tokenize source with
  | error refusal =>
    rw [hsource] at hrun
    cases hrun
  | ok program =>
    rw [hsource] at hrun
    exact carries_runProgram program terms limits _ () b h hrun

/-- A loop that makes the one pass that its ceiling allows, in a list as deep as the
other one does. -/
theorem wider_limits_same_run_loop :
    let low : Limits := { loopLimit := 1, maxDepth := 1 }
    let high : Limits := { loopLimit := 7, maxDepth := 3, strictDefs := false, snapshotLen := 0 }
    let terms : Terms := { limits := low, now := ⟨2024, 1, 1, 0, 0, 0, 0⟩ }
    let source := "7 [0] loop"
    low.Within high ∧ ∃ b, Arena.runWith {} source terms (.new {}) = (.ok (), b) ∧
      Arena.runWith {} source { terms with limits := high } (.new {}) = (.ok (), b) ∧
      b.stack.map Value.display = ["7"] := by
  intro low high terms source
  have hwithin : terms.limits.Within high := ⟨by decide, by decide, nofun⟩
  have hok : (Arena.runWith {} source terms (.new {})).1.isOk = true := by decide +kernel
  have hstack : (Arena.runWith {} source terms (.new {})).2.stack.map Value.display = ["7"] := by
    decide +kernel
  rcases hrun : Arena.runWith {} source terms (.new {}) with ⟨_ | _, b⟩
  · rw [hrun] at hok
    cases hok
  · rw [hrun] at hstack
    exact ⟨hwithin, b, rfl, wider_limits_same_run hwithin {} source _ b hrun, hstack⟩

end EntityBase.Machine
