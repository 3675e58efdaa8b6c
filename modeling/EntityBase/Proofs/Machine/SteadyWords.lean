import EntityBase.Proofs.Machine.Steady

/-!
# Steady evaluation — words that run lists, names and lists

A word that runs a list is steady when the running of lists is. So is what a
quoted word stands for, what has a name, and a list of values; `steady_runList`
closes the circle by induction on the levels that are left.
-/

namespace EntityBase.Machine

open Run.Steady
open Run (Plain)

/-! ## Words that run lists -/

section Lists

variable {runList : List Value → Run Flow} (hrun : ∀ items, (runList items).Steady)

include hrun

theorem steady_onFrame (frame : Frame) (body : List Value) :
    (onFrame runList frame body).Steady := by
  intro env word maxDepth s
  have hbody := hrun body { env with outer := s.frame :: env.outer } word maxDepth { s with frame }
  -- the frame that is set aside joins the outer ones, which no shift touches
  have houter : { env.shifted word maxDepth with
      outer := s.frame :: (env.shifted word maxDepth).outer }
      = Env.shifted { env with outer := s.frame :: env.outer } word maxDepth := rfl
  unfold onFrame
  rw [houter]
  exact hbody.elim (fun _ _ => Agree.refl _) fun _ _ _ hsort => Agree.error _ hsort

theorem steady_loopPasses (limit : Nat) (body : List Value) (n : Nat) :
    (loopPasses runList limit body n).Steady := by
  induction n with
  | zero => exact fail _
  | succ n ih =>
    intro env word maxDepth s
    unfold loopPasses
    refine (hrun body env word maxDepth s).elim (fun flow t => ?_) fun _ _ t hsort =>
      Agree.error t hsort
    cases flow with
    | escape => exact Agree.refl _
    | next =>
      dsimp only
      split
      · exact Agree.refl _
      · split
        · exact ih env word maxDepth _
        · exact Agree.refl _

theorem steady_mapItems (body gathered items : List Value) :
    (mapItems runList body gathered items).Steady := by
  induction items generalizing gathered with
  | nil => exact pure _
  | cons v rest ih =>
    intro env word maxDepth s
    unfold mapItems
    exact (steady_onFrame hrun { items := [v] } body env word maxDepth s).elim
      (fun _ t => ih _ env word maxDepth t) fun _ _ t hsort => Agree.error t hsort

theorem steady_filterItems (body gathered items : List Value) :
    (filterItems runList body gathered items).Steady := by
  induction items generalizing gathered with
  | nil => exact pure _
  | cons v rest ih =>
    intro env word maxDepth s
    unfold filterItems
    refine (steady_onFrame hrun { items := [v] } body env word maxDepth s).elim
      (fun left t => ?_) fun _ _ t hsort => Agree.error t hsort
    cases left with
    | nil => exact ih _ env word maxDepth t
    | cons top below => exact ih _ env word maxDepth t

theorem steady_reduceItems (body : List Value) (acc : Value) (items : List Value) :
    (reduceItems runList body acc items).Steady := by
  induction items generalizing acc with
  | nil => exact pure _
  | cons v rest ih =>
    intro env word maxDepth s
    unfold reduceItems
    exact (steady_onFrame hrun { items := [v, acc] } body env word maxDepth s).elim
      (fun _ t => ih _ env word maxDepth t) fun _ _ t hsort => Agree.error t hsort

theorem steady_selectItems (body : List Value) : (selectItems runList body).Steady := by
  refine bind (steady_onFrame hrun _ body) fun items => get fun s => ?_
  split
  · exact steady_onFrame hrun _ _
  · exact pure _

theorem steady_runSelect (body : List Value) : (runSelect runList body).Steady := by
  intro env word maxDepth s
  unfold runSelect
  exact (steady_selectItems hrun body env word maxDepth { s with selection := some {} }).elim
    (fun _ _ => (Plain.push _).steady env word maxDepth _) fun _ _ _ hsort => Agree.error _ hsort

theorem steady_runControl (w : ControlWord) : (runControl runList w).Steady := by
  have list := Plain.popList.steady
  have top := Plain.pop.steady
  have pushed := fun v => (Plain.push v).steady
  cases w with
  | define => exact (plain_runControl (.inl rfl)).steady
  | bind => exact (plain_runControl (.inr (.inl rfl))).steady
  | escape => exact (plain_runControl (.inr (.inr (.inl rfl)))).steady
  | print => exact (plain_runControl (.inr (.inr (.inr rfl)))).steady
  | spread => exact bind list fun body => hrun body
  | eval =>
    exact bind list fun body => bind (steady_onFrame hrun {} body) fun items =>
      bind (pushed _) fun _ => pure _
  | ifTrue =>
    refine bind list fun body => bind top fun condition => ?_
    split
    · exact hrun body
    · exact pure _
  | ifElse =>
    refine bind list fun otherwise => bind list fun body => bind top fun condition => ?_
    split
    · exact hrun body
    · exact hrun otherwise
  | loop =>
    exact bind list fun body => env (fun e => bind (steady_loopPasses hrun _ body _) fun _ =>
      pure _) fun _ _ _ => rfl
  | map =>
    exact bind list fun body => bind list fun items =>
      bind (steady_mapItems hrun body [] items) fun gathered => bind (pushed _) fun _ => pure _
  | filter =>
    exact bind list fun body => bind list fun items =>
      bind (steady_filterItems hrun body [] items) fun gathered => bind (pushed _) fun _ => pure _
  | reduce =>
    exact bind list fun body => bind top fun acc => bind list fun items =>
      bind (steady_reduceItems hrun body acc items) fun v => bind (pushed _) fun _ => pure _
  | select =>
    exact bind list fun body => bind Plain.popEntitySet.steady fun _ =>
      bind (steady_runSelect hrun body) fun _ => pure _

theorem steady_runNative (n : Native) : (runNative runList n).Steady := by
  cases n with
  | control w => exact steady_runControl hrun w
  | shuffle w => exact (plain_runShuffle w).next.steady
  | logic w => exact (plain_runLogic w).next.steady
  | collection w => exact (plain_runCollection w).next.steady
  | store w => exact (plain_runStoreWord w).next.steady
  | select w => exact (plain_runSelectWord w).next.steady
  | host w => exact (plain_runHost w).steady

theorem steady_runAction (name : String) (a : Action) : (runAction runList name a).Steady := by
  cases a with
  | native n => exact named (steady_runNative hrun n) name
  | body items => exact bind (hrun items) fun _ => pure _
  | value v => exact (Plain.push v).next.steady

/-! ## Names, values and lists -/

omit hrun in
theorem steady_runQuoted {runName : String → Run Flow} (hname : ∀ name, (runName name).Steady)
    (q : QuotedWord) : (runQuoted runName q).Steady := by
  cases q with
  | word name => exact hname name
  | _ => exact (plain_runQuoted (by simp)).steady

omit hrun in
theorem steady_runValueBy {runName : String → Run Flow} (hname : ∀ name, (runName name).Steady)
    (v : Value) : (runValueBy runName v).Steady := by
  unfold runValueBy
  split
  · exact steady_runQuoted hname _
  · exact (Plain.push v).next.steady

theorem steady_runNameBy (fuel : Nat) (name : String) : (runNameBy runList fuel name).Steady := by
  induction fuel generalizing name with
  | zero =>
    refine bind (Plain.resolve name).steady fun w => ?_
    split
    · exact (Plain.push _).next.steady
    · exact steady_runAction hrun name _
  | succ fuel ih =>
    refine bind (Plain.resolve name).steady fun w => ?_
    split
    · exact (Plain.push _).next.steady
    · exact named (bind Plain.pop.steady fun v => steady_runValueBy ih v) name
    · exact steady_runAction hrun name _

theorem steady_runName (name : String) : (runName runList name).Steady :=
  items fun items => steady_runNameBy hrun items.length name

theorem steady_runValue (v : Value) : (runValue runList v).Steady :=
  steady_runValueBy (steady_runName hrun) v

theorem steady_runValues (values : List Value) : (runValues runList values).Steady := by
  induction values with
  | nil => exact pure _
  | cons v rest ih =>
    intro env word maxDepth s
    unfold runValues
    refine (steady_runValue hrun v env word maxDepth s).elim (fun flow t => ?_) fun _ _ t hsort =>
      Agree.error t hsort
    cases flow with
    | next => exact ih env word maxDepth t
    | escape => exact Agree.refl _

end Lists

/-- **Running a list is steady**, on every number of levels: reaching the ceiling
is a failure of one kind, wherever the ceiling lies. -/
theorem steady_runList (levels : Nat) (values : List Value) : (runList levels values).Steady := by
  induction levels generalizing values with
  | zero => exact fun _ _ _ s => Agree.error s rfl
  | succ levels ih => exact steady_runValues ih values

end EntityBase.Machine
