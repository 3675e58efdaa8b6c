import EntityBase.Machine.Arena.Program
import EntityBase.Proofs.Machine.Arena.Evaluation
import EntityBase.Proofs.Machine.Tokens

/-!
# Programs on an arena follow programs on nested frames

On the frame where a program starts, the literals that are open stand as cells,
one inside the other: `openLiterals` puts them there. A program on an arena
passes through such arenas only. A token that opens or closes a literal enters
or leaves a cell, and any other token does what it does to the base frame or to
the innermost literal. A failure drops the literals and so leaves the base frame
on top, as a run to the end does.
-/

namespace EntityBase.Machine

open Work (Follows FollowsAt)
open Run (Plain)

namespace Arena

variable {a : Arena} {s : State} {terms : Terms} {literals outer : List OpenLiteral}

/-! ## Literals that are open -/

/-- The cell in which a literal is gathered. -/
def literalCell (o : OpenLiteral) : Cell :=
  { kind := .literal o.kind, openedAt := o.span, frame := { items := o.items } }

/-- The arena on which some literals are open above the current cell, the innermost
first. -/
def openLiterals (a : Arena) : List OpenLiteral → Arena
  | [] => a
  | o :: outer => (a.openLiterals outer).enter (literalCell o)

/-- A frame for words, with none above it. -/
structure AtTop (a : Arena) : Prop where
  top : a.cells.size = a.current + 1
  eval : a.cell.kind = .eval

theorem AtTop.lt (h : a.AtTop) : a.current < a.cells.size := by
  rw [h.top]
  exact Nat.lt_succ_self _

theorem AtTop.put (h : a.AtTop) (s : State) : (a.put s).AtTop where
  top := by rw [size_put, h.top, current_put]
  eval := (kind_setFrame s.frame a.current).trans h.eval

/-- Only cells are different. -/
theorem openLiterals_eq (a : Arena) (literals : List OpenLiteral) :
    a.openLiterals literals = { a with
      cells := (a.openLiterals literals).cells
      current := (a.openLiterals literals).current } := by
  induction literals with
  | nil => rfl
  | cons o outer ih =>
    exact congrArg (fun b => b.enter (literalCell o)) ih

theorem size_openLiterals :
    (a.openLiterals literals).cells.size = a.cells.size + literals.length := by
  induction literals with
  | nil => rfl
  | cons o outer ih =>
    rw [openLiterals, enter, Array.size_push, ih]
    rfl

theorem current_openLiterals (h : a.AtTop) :
    (a.openLiterals literals).current = a.current + literals.length := by
  cases literals with
  | nil => rfl
  | cons o outer =>
    change (a.openLiterals outer).cells.size = _
    rw [size_openLiterals, h.top, List.length_cons]
    omega

theorem kind_openLiterals (o : OpenLiteral) :
    (a.openLiterals (o :: outer)).cell.kind = .literal o.kind := congrArg Cell.kind cell_enter

theorem items_openLiterals (o : OpenLiteral) :
    (a.openLiterals (o :: outer)).frame.items = o.items := congrArg (·.frame.items) cell_enter

theorem current_openLiterals_ne (h : a.AtTop) (o : OpenLiteral) :
    (a.openLiterals (o :: outer)).current ≠ a.current := by
  rw [current_openLiterals h, List.length_cons]
  omega

/-- The cells of before are below. -/
theorem getD_openLiterals {i : Nat} (hi : i < a.cells.size) :
    (a.openLiterals literals).cells.getD i {} = a.cells.getD i {} := by
  induction literals with
  | nil => rfl
  | cons o outer ih =>
    refine (getD_push_of_lt ?_ _).trans ih
    rw [size_openLiterals]
    omega

/-- What is seen from the base does not change with what is open above it. -/
theorem envAt_openLiterals (h : a.AtTop) :
    (a.openLiterals literals).envAt terms a.current = a.env terms := by
  have hcell : ∀ j ≤ a.current, (a.openLiterals literals).cells.getD j {} = a.cells.getD j {} :=
    fun j hj => getD_openLiterals (Nat.lt_of_le_of_lt hj h.lt)
  have hframes : framesAround (a.openLiterals literals).cells a.current
      = framesAround a.cells a.current :=
    framesAround_congr (fun j hj => by rw [hcell j hj])
      fun j hj => congrArg Cell.frame (hcell j (Nat.le_of_lt hj))
  rw [openLiterals_eq]
  unfold env envAt
  dsimp only
  rw [hframes]

theorem stateAt_openLiterals (h : a.AtTop) :
    (a.openLiterals literals).stateAt a.current = a.state := by
  have hframe : frameAt (a.openLiterals literals).cells a.current = a.frame :=
    congrArg Cell.frame (getD_openLiterals h.lt)
  rw [openLiterals_eq]
  unfold state stateAt
  dsimp only
  rw [hframe]
  rfl

/-- Where words run depends on the cells up to a place. -/
theorem evalPlace_congr {cells cells' : Array Cell} {i : Nat}
    (h : ∀ j ≤ i, cells.getD j {} = cells'.getD j {}) :
    evalPlace cells i = evalPlace cells' i := by
  induction i using Nat.strongRecOn with
  | ind i ih =>
    rw [evalPlace, evalPlace, h i (Nat.le_refl i)]
    split
    · next p _ _ =>
      by_cases hp : p < i
      · rw [if_pos hp, if_pos hp, ih p hp fun j hj => h j (by omega)]
      · rw [if_neg hp, if_neg hp]
    · rfl

/-- Words run on the base, whatever is open. -/
theorem evalPlace_openLiterals (h : a.AtTop) :
    evalPlace (a.openLiterals literals).cells (a.openLiterals literals).current = a.current := by
  induction literals with
  | nil =>
    have hkind : (a.cells.getD a.current {}).kind = .eval := h.eval
    change evalPlace a.cells a.current = a.current
    rw [evalPlace, hkind]
  | cons o outer ih =>
    let b := a.openLiterals outer
    have hcell : (b.enter (literalCell o)).cells.getD b.cells.size {}
        = { literalCell o with parent := some b.current } := getD_push_size ..
    have hlt : b.current < b.cells.size := by
      rw [size_openLiterals, current_openLiterals h, h.top]
      omega
    change evalPlace (b.enter (literalCell o)).cells b.cells.size = a.current
    rw [evalPlace, hcell]
    dsimp only [literalCell]
    rw [if_pos hlt]
    refine Eq.trans (evalPlace_congr fun j hj => ?_) ih
    exact getD_push_of_lt (Nat.lt_of_le_of_lt hj hlt) _

/-- Dropping what is open leaves the base. -/
theorem unwind_openLiterals (h : a.AtTop) :
    (a.openLiterals literals).unwind a.current = a := by
  have htake : (a.openLiterals literals).cells.take (a.current + 1) = a.cells := by
    ext i hi hi'
    · simp [size_openLiterals, h.top]
    · have hcell : (a.openLiterals literals).cells.getD i {} = a.cells.getD i {} :=
        getD_openLiterals hi'
      have hlt : i < (a.openLiterals literals).cells.size := by
        rw [size_openLiterals]
        omega
      rw [← Array.getElem_eq_getD (h := hlt), ← Array.getElem_eq_getD (h := hi')] at hcell
      simpa using hcell
  rw [openLiterals_eq]
  unfold unwind
  dsimp only
  rw [htake]

/-- A value goes to the innermost literal. -/
theorem push_openLiterals (o : OpenLiteral) (v : Value) :
    (a.openLiterals (o :: outer)).push v
      = a.openLiterals ({ o with items := v :: o.items } :: outer) := by
  have hframe : (a.openLiterals (o :: outer)).frame = { items := o.items } :=
    congrArg Cell.frame cell_enter
  unfold push
  rw [hframe]
  exact setFrame_enter _

theorem literalOf_openLiterals (o : OpenLiteral) :
    literalOf (a.openLiterals (o :: outer)).last = o := by
  rw [openLiterals, last_enter]
  rfl

end Arena

/-! ## One token on an arena -/

section Step

variable {evalList : List Value → Work Flow} {base : Nat} {a : Arena} {terms : Terms}
  {t : Token} {span : Span} {rest : List Lexeme} {kind : LiteralKind}

theorem Arena.runTokens_open (h : opens t = some kind) :
    runTokens evalList base (⟨t, span⟩ :: rest) terms a
      = runTokens evalList base rest terms (a.openLiteral kind span) := by
  rewrite [runTokens, h]
  rfl

theorem Arena.runTokens_close (hopen : opens t = none) (hclose : closes t = some kind) :
    runTokens evalList base (⟨t, span⟩ :: rest) terms a
      = if a.current = base ∨ a.cell.kind ≠ .literal kind then
          (.error (.unexpectedClose span), a)
        else match closeLiteral terms a with
          | (.ok (), a) => runTokens evalList base rest terms a
          | (.error e, a) => (.error e, a) := by
  rewrite [runTokens, hopen, hclose]
  rfl

theorem Arena.runTokens_inside (hopen : opens t = none) (hclose : closes t = none)
    (hkind : a.cell.kind = .literal kind) :
    runTokens evalList base (⟨t, span⟩ :: rest) terms a
      = match captureToken t span terms a with
        | (.ok v, a) => runTokens evalList base rest terms (a.push v)
        | (.error e, a) => (.error e, a) := by
  rewrite [runTokens, hopen, hclose]
  dsimp only
  rewrite [hkind]
  rfl

theorem Arena.runTokens_outside (hopen : opens t = none) (hclose : closes t = none)
    (hkind : a.cell.kind = .eval) :
    runTokens evalList base (⟨t, span⟩ :: rest) terms a
      = match evalToken (invoke evalList) t span terms a with
        | (.ok .next, a) => runTokens evalList base rest terms a
        | (.ok .escape, a) => (.ok (), a)
        | (.error e, a) => (.error e, a) := by
  rewrite [runTokens, hopen, hclose]
  dsimp only
  rewrite [hkind]
  rfl

end Step

/-! ## Tokens -/

section Tokens

open Arena

variable {levels : Nat} {terms : Terms} {a : Arena} {literals outer : List OpenLiteral}

theorem captureToken_openLiterals (h : a.AtTop) (t : Token) (span : Span) :
    captureToken t span terms (a.openLiterals literals)
      = ((capture (a.openLiterals literals).frame.items t span (a.env terms) a.state).1,
        a.openLiterals literals) := by
  unfold captureToken
  rw [evalPlace_openLiterals h]
  dsimp only
  rw [envAt_openLiterals h, stateAt_openLiterals h]

theorem closeLiteral_ok {o : OpenLiteral} {v : Value} (hv : o.value = .ok v) :
    closeLiteral terms (a.openLiterals (o :: outer)) = (.ok (), (a.openLiterals outer).push v) := by
  unfold closeLiteral
  rw [literalOf_openLiterals, hv]
  dsimp only
  rw [openLiterals, leave_enter]

/-- What cannot be closed fails with what stands around it. -/
theorem closeLiteral_error {o : OpenLiteral} {c : Complaint} (hc : o.value = .error c) :
    closeLiteral terms (a.openLiterals (o :: outer))
      = (.error (.invalidArguments "\x7d" c
          (snapshot terms.limits (a.openLiterals outer).frame.items)),
        a.openLiterals outer) := by
  unfold closeLiteral
  rw [literalOf_openLiterals, hc]
  dsimp only
  rw [openLiterals, leave_enter]
  change (_, (a.openLiterals outer).put (a.openLiterals outer).state) = _
  rw [put_state]
  rfl

/-- Outside of literals a token is evaluated alike. -/
theorem followsAt_evalToken {evalList : List Value → Work Flow} {runList : List Value → Run Flow}
    (hlist : ∀ items, Follows levels (evalList items) (runList items)) (h : a.AtTop)
    (hlevels : terms.limits.maxDepth - a.depth = levels) (t : Token) (span : Span) :
    FollowsAt terms a (evalToken (invoke evalList) t span) (runToken runList t span) := by
  have hname := follows_invoke hlist
  have hquoted (q : QuotedWord) : FollowsAt terms a (evalQuoted (invoke evalList) q)
      (runQuoted (runName runList) q) := follows_evalQuoted hname q terms a h.lt hlevels
  have hcaptured : FollowsAt terms a (captureToken t span)
      (Run.items >>= fun items => capture items t span) := by
    have hrun : (Run.items >>= fun items => capture items t span) (a.env terms) a.state
        = ((capture a.frame.items t span (a.env terms) a.state).1, a.state) := by
      rw [Run.bind_ok (show Run.items (a.env terms) a.state = (.ok a.frame.items, a.state) from rfl)]
      exact Prod.ext rfl (capture_state ..)
    have hwork : captureToken t span terms (a.openLiterals []) = _ :=
      captureToken_openLiterals h t span
    constructor
    · rw [hrun]
      rfl
    · rw [hrun, put_state]
      exact hwork
  have hpushed : FollowsAt terms a
      (captureToken t span >>= fun v => Work.lift (Run.push v) >>= fun _ => pure Flow.next)
      (andNext (Run.items >>= fun items => capture items t span >>= Run.push)) := by
    unfold andNext
    rw [← Run.bind_assoc Run.items, Run.bind_assoc]
    refine hcaptured.bind h.lt fun v s _ _ => ?_
    exact Work.Follows.lift_bind (Plain.push v) (fun _ => .pure _) terms (a.put s) (h.put s).lt
      hlevels
  cases t with
  | word name => exact hname name terms a h.lt hlevels
  | ref name => exact hquoted (.ref name)
  | backRef name => exact hquoted (.backRef name)
  | escaped text => exact hquoted (QuotedWord.ofText text)
  | attr path => exact hquoted (.attr path)
  | _ => exact hpushed

/-- How the tokens of a program end over an arena: with the result of a run, and once
what is open is dropped, with the state of that run written back. Nothing is open
when they end well. -/
structure EndsAs (a : Arena) (work : Except Failure Unit × Arena)
    (run : Except Failure Unit × State) : Prop where
  fits : a.Fits run.2
  result : work.1 = run.1
  unwound : work.2.unwind a.current = a.put run.2
  ended : run.1 = .ok () → work.2 = a.put run.2

theorem EndsAs.fail (h : a.AtTop) (e : Failure) :
    EndsAs a (.error e, a.openLiterals literals) (.error e, a.state) where
  fits := rfl
  result := rfl
  unwound := by rw [unwind_openLiterals h, put_state]
  ended := nofun

/-- An end with nothing open. -/
theorem EndsAs.put {s : State} (h : a.AtTop) (hs : a.Fits s) (r : Except Failure Unit) :
    EndsAs a (r, a.put s) (r, s) where
  fits := hs
  result := rfl
  unwound := by
    have hnone : ((a.put s).openLiterals []).unwind (a.put s).current = a.put s :=
      unwind_openLiterals (h.put s)
    exact hnone
  ended _ := rfl

theorem EndsAs.here (h : a.AtTop) (r : Except Failure Unit) : EndsAs a (r, a) (r, a.state) := by
  have hput := EndsAs.put h (s := a.state) rfl r
  rw [put_state] at hput
  exact hput

/-- What comes after a state was written back. -/
theorem EndsAs.of_put {s : State} {work : Except Failure Unit × Arena}
    {run : Except Failure Unit × State} (ha : a.current < a.cells.size) (hs : a.Fits s)
    (h : EndsAs (a.put s) work run) : EndsAs a work run where
  fits := by
    have hfits := h.fits
    unfold Arena.Fits at hfits
    rw [state_put ha hs] at hfits
    exact hfits.trans hs
  result := h.result
  unwound := h.unwound.trans (put_put hs)
  ended hok := (h.ended hok).trans (put_put hs)

/-- The end of the tokens. -/
theorem endsAs_nil (h : a.AtTop) {evalList : List Value → Work Flow}
    {runList : List Value → Run Flow} :
    EndsAs a (Arena.runTokens evalList a.current [] terms (a.openLiterals literals))
      (runTokens runList literals [] (a.env terms) a.state) := by
  cases literals with
  | nil =>
    have hwork : Arena.runTokens evalList a.current [] terms a = (.ok (), a) := by
      rw [Arena.runTokens]
      exact if_pos rfl
    change EndsAs a (Arena.runTokens evalList a.current [] terms a) _
    rw [hwork]
    exact EndsAs.here h (.ok ())
  | cons o outer =>
    have hcell : (a.openLiterals (o :: outer)).cell.openedAt = o.span :=
      congrArg Cell.openedAt cell_enter
    have hwork : Arena.runTokens evalList a.current [] terms (a.openLiterals (o :: outer))
        = (.error (.unclosedScope o.span), a.openLiterals (o :: outer)) := by
      rw [Arena.runTokens]
      dsimp only
      rw [if_neg (current_openLiterals_ne h o), hcell]
    rw [hwork]
    exact EndsAs.fail h _

section Step

variable {evalList : List Value → Work Flow} {runList : List Value → Run Flow}
  {rest : List Lexeme} {t : Token} {span : Span}
  (hrest : ∀ {a : Arena} {literals : List OpenLiteral}, a.AtTop →
    terms.limits.maxDepth - a.depth = levels →
    EndsAs a (Arena.runTokens evalList a.current rest terms (a.openLiterals literals))
      (runTokens runList literals rest (a.env terms) a.state))

include hrest

/-- The base goes on with another state. -/
theorem endsAs_next {s : State} (h : a.AtTop) (hlevels : terms.limits.maxDepth - a.depth = levels)
    (hs : a.Fits s) :
    EndsAs a (Arena.runTokens evalList a.current rest terms (a.put s))
      (runTokens runList [] rest (a.env terms) s) := by
  have hnext := @hrest (a.put s) [] (h.put s) hlevels
  rw [env_put, state_put h.lt hs] at hnext
  exact EndsAs.of_put h.lt hs hnext

theorem endsAs_close {kind : LiteralKind} (h : a.AtTop)
    (hlevels : terms.limits.maxDepth - a.depth = levels) (hopen : opens t = none)
    (hclose : closes t = some kind) :
    EndsAs a (Arena.runTokens evalList a.current (⟨t, span⟩ :: rest) terms
        (a.openLiterals literals))
      (runTokens runList literals (⟨t, span⟩ :: rest) (a.env terms) a.state) := by
  rw [Arena.runTokens_close hopen hclose]
  cases literals with
  | nil =>
    rw [if_pos (.inl rfl), runTokens_close_ne hclose (by simp)]
    exact EndsAs.here h _
  | cons o outer =>
    rw [kind_openLiterals]
    by_cases hkind : o.kind = kind
    · subst hkind
      rw [if_neg (by simp [current_openLiterals_ne h o]), runTokens_close hclose]
      cases hvalue : o.value with
      | error c =>
        rw [closeLiteral_error hvalue]
        cases outer with
        | nil => exact EndsAs.here h _
        | cons p outer =>
          rw [items_openLiterals]
          exact EndsAs.fail h _
      | ok v =>
        rw [closeLiteral_ok hvalue]
        cases outer with
        | nil =>
          rw [openLiterals, push, setFrame_eq_put]
          exact endsAs_next hrest h hlevels rfl
        | cons p outer =>
          rw [push_openLiterals]
          exact hrest h hlevels
    · rw [if_pos (.inr (by simpa using hkind)), runTokens_close_ne hclose (by simpa using hkind)]
      exact EndsAs.fail h _

theorem endsAs_inside (o : OpenLiteral) (h : a.AtTop)
    (hlevels : terms.limits.maxDepth - a.depth = levels) (hopen : opens t = none)
    (hclose : closes t = none) :
    EndsAs a (Arena.runTokens evalList a.current (⟨t, span⟩ :: rest) terms
        (a.openLiterals (o :: outer)))
      (runTokens runList (o :: outer) (⟨t, span⟩ :: rest) (a.env terms) a.state) := by
  have hstate := capture_state o.items t span (a.env terms) a.state
  rw [runTokens_inside hopen hclose, Arena.runTokens_inside hopen hclose (kind_openLiterals o),
    captureToken_openLiterals h, items_openLiterals]
  cases hcapture : capture o.items t span (a.env terms) a.state with
  | mk r s =>
    rw [hcapture] at hstate
    subst hstate
    cases r with
    | error e => exact EndsAs.fail h e
    | ok v =>
      dsimp only
      rw [push_openLiterals]
      exact hrest h hlevels

theorem endsAs_outside (hlist : ∀ items, Follows levels (evalList items) (runList items))
    (h : a.AtTop) (hlevels : terms.limits.maxDepth - a.depth = levels) (hopen : opens t = none)
    (hclose : closes t = none) :
    EndsAs a (Arena.runTokens evalList a.current (⟨t, span⟩ :: rest) terms a)
      (runTokens runList [] (⟨t, span⟩ :: rest) (a.env terms) a.state) := by
  obtain ⟨hfits, houtcome⟩ := followsAt_evalToken hlist h hlevels t span
  rw [runTokens_outside hopen hclose, Arena.runTokens_outside hopen hclose h.eval, houtcome]
  cases hrun : runToken runList t span (a.env terms) a.state with
  | mk r s =>
    rw [hrun] at hfits
    cases r with
    | error e => exact EndsAs.put h hfits (.error e)
    | ok flow =>
      cases flow with
      | escape => exact EndsAs.put h hfits (.ok ())
      | next => exact endsAs_next hrest h hlevels hfits

end Step

/-- **Tokens run alike**, whatever literals are open. The induction is on the tokens
that are left; a token outside of literals changes the base, one inside changes the
literals. -/
theorem endsAs_runTokens {evalList : List Value → Work Flow} {runList : List Value → Run Flow}
    (hlist : ∀ items, Follows levels (evalList items) (runList items)) (program : List Lexeme)
    (h : a.AtTop) (hlevels : terms.limits.maxDepth - a.depth = levels) :
    EndsAs a (Arena.runTokens evalList a.current program terms (a.openLiterals literals))
      (runTokens runList literals program (a.env terms) a.state) := by
  induction program generalizing a literals with
  | nil => exact endsAs_nil h
  | cons lexeme rest ih =>
    obtain ⟨t, span⟩ := lexeme
    cases hopen : opens t with
    | some kind =>
      rw [runTokens_open hopen, Arena.runTokens_open hopen]
      exact @ih a ({ kind, span } :: literals) h hlevels
    | none =>
      cases hclose : closes t with
      | some kind => exact endsAs_close ih h hlevels hopen hclose
      | none =>
        cases literals with
        | nil => exact endsAs_outside ih hlist h hlevels hopen hclose
        | cons o outer => exact endsAs_inside ih o h hlevels hopen hclose

/-- The lists of a program run on the levels that the depth leaves. -/
theorem follows_evalList_left (terms : Terms) (a : Arena) (items : List Value) :
    Follows (terms.limits.maxDepth - a.depth) (evalList terms.limits.maxDepth items)
      (runList (terms.limits.maxDepth - a.depth) items) := by
  have hmin : Follows _ _ (runList (min _ (terms.limits.maxDepth - a.depth)) items) :=
    follows_evalList terms.limits.maxDepth items
  rw [Nat.min_eq_right (Nat.sub_le ..)] at hmin
  exact hmin

/-- **A program** leaves the arena as it was but for the state of the run, however it
ends. -/
theorem followsAt_runProgram (h : a.AtTop) (program : List Lexeme) :
    FollowsAt terms a (runProgram program)
      (runTokens (runList (terms.limits.maxDepth - a.depth)) [] program) := by
  have hlist := follows_evalList_left terms a
  have hend : EndsAs a
      (Arena.runTokens (evalList terms.limits.maxDepth) a.current program terms (a.openLiterals []))
      (runTokens (runList (terms.limits.maxDepth - a.depth)) [] program (a.env terms) a.state) :=
    endsAs_runTokens hlist program h rfl
  change EndsAs a (Arena.runTokens (evalList terms.limits.maxDepth) a.current program terms a) _
    at hend
  refine ⟨hend.fits, ?_⟩
  unfold runProgram
  cases hwork : Arena.runTokens (evalList terms.limits.maxDepth) a.current program terms a with
  | mk r b =>
    rw [hwork] at hend
    cases r with
    | ok x => exact Prod.ext hend.result (hend.ended hend.result.symm)
    | error e => exact Prod.ext hend.result hend.unwound

end Tokens

end EntityBase.Machine
