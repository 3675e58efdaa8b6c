import EntityBase.Machine.Arena.Program
import Mathlib.Logic.Function.Iterate

/-!
# Stages — evaluation in single steps

An evaluator that calls itself has an outcome only. Here the same evaluation goes
step by step, without levels and without fuel. A **stage** holds what is done next,
what waits for it, the innermost first, and the arena. A step does what comes
before the next call, or what comes after a call that ended: it runs no list, makes
no pass of a loop and evaluates no value on the way. Whether that comes to an end
is left open by this module.

What waits is what the calls of an evaluator have on their minds: the rest of a
list, the place to put back, the body of a loop with the number of passes that were
begun. A failure is handed down through all of it, and each puts back what it
changed.
-/

namespace EntityBase.Machine

/-! ## What is done and what waits -/

/-- What is called. -/
inductive Call where
  /-- a value is evaluated -/
  | value (v : Value)
  /-- what has a name is run -/
  | name (name : String)
  /-- a native word is run -/
  | native (n : Native)
  /-- a list is run on the current frame -/
  | list (items : List Value)
  /-- the next pass of a loop is made, after so many -/
  | pass (body : List Value) (passes : Nat)

/-- What is done next: something is called, or what was called has ended. -/
inductive Focus where
  | call (c : Call)
  | ended (r : Except Failure Flow)

/-- What a list is run for on a frame of its own. -/
inductive Purpose where
  | eval
  /-- the body of `map`, what was gathered before (the last item first) and the
  items to come -/
  | map (body gathered rest : List Value)
  /-- the same of `filter`, with the item that is looked at -/
  | filter (body gathered : List Value) (v : Value) (rest : List Value)
  /-- the body of `reduce` and the items to come -/
  | reduce (body rest : List Value)
  /-- a select program -/
  | select
  /-- the reader of a select program that read nothing -/
  | read

/-- What waits for a call to end. -/
inductive Pending where
  /-- the values of a list that come after -/
  | items (rest : List Value)
  /-- the list itself, one level down -/
  | level
  /-- a native word, and the word that ran before it -/
  | word (previous : String)
  /-- a word that stands for a list; it absorbs an escape -/
  | absorb
  /-- a loop, and how many of its passes were begun -/
  | loop (body : List Value) (passes : Nat)
  /-- a frame that is left then -/
  | child (purpose : Purpose)
  /-- the tokens of a program that come after -/
  | tokens (base : Nat) (rest : List Lexeme)
  /-- a program on the frame at a place -/
  | program (base : Nat)

/-- What is done next, and what waits for it ahead of what waited before. -/
structure Course where
  focus : Focus
  waiting : List Pending := []

namespace Course

/-- Nothing is left to do but to hand a flow on. -/
def flow (f : Flow) : Course := { focus := .ended (.ok f) }

/-- A call that something waits for. -/
def call (c : Call) (waiting : List Pending) : Course := { focus := .call c, waiting }

/-- Something else waits behind. -/
def before (c : Course) (p : Pending) : Course := { c with waiting := c.waiting ++ [p] }

end Course

/-- The arena without the settings of the select program that runs. -/
def Arena.endSelect (a : Arena) : Arena := { a with selections := a.selections.tail }

namespace Work

/-- Enters a frame for a list. -/
def openChild (frame : Frame) (body : List Value) (purpose : Purpose) : Work Course :=
  fun _ a => (.ok (.call (.list body) [.child purpose]), a.enter { frame })

/-- Leaves a frame with its items. -/
def leaveChild : Work (List Value) := fun _ a => (.ok a.last.frame.items, a.leave)

/-- Sets settings up for a select program. -/
def beginSelect : Work Unit := fun _ a => (.ok (), { a with selections := {} :: a.selections })

/-- Drops the settings of a select program and gives them. -/
def endSelect : Work (Option Selection) := fun _ a => (.ok a.selections.head?, a.endSelect)

end Work

/-! ## What comes first -/

/-- The next item of `map`, or its result. -/
def mapNext (body gathered : List Value) : List Value → Work Course
  | [] => do
    Run.push (.list gathered.reverse)
    pure (.flow .next)
  | v :: rest => Work.openChild { items := [v] } body (.map body gathered rest)

/-- The next item of `filter`, or its result. -/
def filterNext (body gathered : List Value) : List Value → Work Course
  | [] => do
    Run.push (.list gathered.reverse)
    pure (.flow .next)
  | v :: rest => Work.openChild { items := [v] } body (.filter body gathered v rest)

/-- The next item of `reduce`, or its result. -/
def reduceNext (body : List Value) (acc : Value) : List Value → Work Course
  | [] => do
    Run.push acc
    pure (.flow .next)
  | v :: rest => Work.openChild { items := [v, acc] } body (.reduce body rest)

/-- What a select program leaves at its end. -/
def selectNext (left : List Value) : Work Course := do
  let settings ← Work.endSelect
  Run.push (selectResult (settings.any (·.count)) left)
  pure (.flow .next)

/-- The beginning of a control word. -/
def startControl : ControlWord → Work Course
  | .spread => do
    let body ← Run.popList
    pure (.call (.list body) [])
  | .eval => do
    let body ← Run.popList
    Work.openChild {} body .eval
  | .ifTrue => do
    let body ← Run.popList
    let condition ← Run.pop
    if condition.truthy then pure (.call (.list body) []) else pure (.flow .next)
  | .ifElse => do
    let otherwise ← Run.popList
    let body ← Run.popList
    let condition ← Run.pop
    if condition.truthy then pure (.call (.list body) []) else pure (.call (.list otherwise) [])
  | .loop => do
    let body ← Run.popList
    pure (.call (.pass body 0) [])
  | .map => do
    let body ← Run.popList
    let items ← Run.popList
    mapNext body [] items
  | .filter => do
    let body ← Run.popList
    let items ← Run.popList
    filterNext body [] items
  | .reduce => do
    let body ← Run.popList
    let acc ← Run.pop
    let items ← Run.popList
    reduceNext body acc items
  | .select => do
    let body ← Run.popList
    Run.popEntitySet
    Work.beginSelect
    Work.openChild { words := Dictionary.selectScope } body .select
  -- the other ones call nothing
  | w => do
    let flow ← Machine.runControl (fun _ => pure .next) w
    pure (.flow flow)

/-- The beginning of a native word. -/
def startNative : Native → Work Course
  | .control w => startControl w
  | .host .eval => do
    let v ← Run.pop
    pure (.call (.value v) [])
  -- the other ones call nothing
  | n => do
    let flow ← Machine.runNative (fun _ => pure .next) n
    pure (.flow flow)

/-- The beginning of what a word does. -/
def startAction (name : String) : Action → Work Course
  | .native n => fun _ a => (.ok (.call (.native n) [.word a.word]), { a with word := name })
  | .body items => pure (.call (.list items) [.absorb])
  | .value v => do
    Run.push v
    pure (.flow .next)

/-- The beginning of what has a name. -/
def startName (name : String) : Work Course := do
  match ← Run.resolve name with
  | none =>
    Run.push (.text name)
    pure (.flow .next)
  | some w => startAction name w.action

/-- The beginning of what a quoted word stands for. -/
def startQuoted : QuotedWord → Work Course
  | .word name => pure (.call (.name name) [])
  -- the other ones call nothing
  | q => do
    let flow ← runQuoted (fun _ => pure .next) q
    pure (.flow flow)

/-- The beginning of a value. -/
def startValue : Value → Work Course
  | .scalar (.quoted q) => startQuoted q
  | v => do
    Run.push v
    pure (.flow .next)

/-- The beginning of a list: it goes one level down, unless the ceiling on the depth
is reached. -/
def startList (items : List Value) : Work Course := fun terms a =>
  if terms.limits.maxDepth ≤ a.depth then (.error (.depthExceeded terms.limits.maxDepth), a)
  else (.ok ⟨.ended (.ok .next), [.items items, .level]⟩, { a with depth := a.depth + 1 })

/-- The beginning of a pass of a loop, unless the ceiling on the passes is reached. -/
def startPass (body : List Value) (passes : Nat) : Work Course := fun terms a =>
  if terms.limits.loopLimit ≤ passes then (.error (.runawayLoop terms.limits.loopLimit), a)
  else (.ok (.call (.list body) [.loop body (passes + 1)]), a)

section Ceilings

variable {terms : Terms} {a : Arena} {items body : List Value} {passes : Nat}

theorem startList_of_le (h : terms.limits.maxDepth ≤ a.depth) :
    startList items terms a = (.error (.depthExceeded terms.limits.maxDepth), a) := if_pos h

theorem startList_of_lt (h : a.depth < terms.limits.maxDepth) :
    startList items terms a = (.ok (((Course.flow .next).before (.items items)).before .level),
      { a with depth := a.depth + 1 }) := if_neg (Nat.not_le.mpr h)

theorem startPass_of_le (h : terms.limits.loopLimit ≤ passes) :
    startPass body passes terms a = (.error (.runawayLoop terms.limits.loopLimit), a) := if_pos h

theorem startPass_of_lt (h : passes < terms.limits.loopLimit) :
    startPass body passes terms a
      = (.ok ((Course.call (.list body) []).before (.loop body (passes + 1))), a) :=
  if_neg (Nat.not_le.mpr h)

end Ceilings

/-- The beginning of what is called. -/
def Call.start : Call → Work Course
  | .value v => startValue v
  | .name n => startName n
  | .native n => startNative n
  | .list items => startList items
  | .pass body passes => startPass body passes

/-- The beginning of a token outside of literals. -/
def startToken (t : Token) (span : Span) : Work Course :=
  match t with
  | .word name => pure (.call (.name name) [])
  | .ref name => startQuoted (.ref name)
  | .backRef name => startQuoted (.backRef name)
  | .escaped text => startQuoted (QuotedWord.ofText text)
  | .attr path => startQuoted (.attr path)
  | t => do
    let v ← Arena.captureToken t span
    Run.push v
    pure (.flow .next)

/-- The beginning of some tokens: the first one is done, and the other ones wait. -/
def startTokens (base : Nat) : List Lexeme → Work Course
  | [] => fun _ a =>
    if a.current = base then (.ok (.flow .next), a)
    else (.error (.unclosedScope a.cell.openedAt), a)
  | ⟨t, span⟩ :: rest => fun terms a =>
    let others : Course := (Course.flow .next).before (.tokens base rest)
    match opens t, closes t with
    | some kind, _ => (.ok others, a.openLiteral kind span)
    | none, some kind =>
      if a.current = base ∨ a.cell.kind ≠ .literal kind then (.error (.unexpectedClose span), a)
      else
        match Arena.closeLiteral terms a with
        | (.ok (), a) => (.ok others, a)
        | (.error e, a) => (.error e, a)
    | none, none =>
      match a.cell.kind with
      | .eval =>
        match startToken t span terms a with
        | (.ok c, a) => (.ok (c.before (.tokens base rest)), a)
        | (.error e, a) => (.error e, a)
      | .literal _ =>
        match Arena.captureToken t span terms a with
        | (.ok v, a) => (.ok others, a.push v)
        | (.error e, a) => (.error e, a)

/-! ## What comes after -/

/-- What is done with the items that a list left on a frame of its own. -/
def Purpose.next : Purpose → List Value → Work Course
  | .eval, left => do
    Run.push (.list left.reverse)
    pure (.flow .next)
  | .map body gathered rest, left => mapNext body (left ++ gathered) rest
  | .filter body gathered v rest, left =>
    filterNext body (if left.head?.any Value.truthy then v :: gathered else gathered) rest
  | .reduce body rest, left => reduceNext body (left.head?.getD Value.nil) rest
  | .select, left => do
    let settings ← Run.selection
    if settings.read then selectNext left
    else Work.openChild { items := left, words := Dictionary.selectScope } implicitReader .read
  | .read, left => selectNext left

/-- What comes after a call that ended well. -/
def Pending.resume : Pending → Flow → Work Course
  | .items (v :: rest), .next => pure (.call (.value v) [.items rest])
  | .items _, flow => pure (.flow flow)
  | .level, flow => fun _ a => (.ok (.flow flow), { a with depth := a.depth - 1 })
  | .word previous, flow => fun _ a => (.ok (.flow flow), { a with word := previous })
  | .absorb, _ => pure (.flow .next)
  | .loop body passes, .next => do
    match ← Run.popIf .any with
    | some v => if v.truthy then pure (.call (.pass body passes) []) else pure (.flow .next)
    | none => pure (.flow .next)
  | .loop _ _, .escape => pure (.flow .next)
  | .child purpose, _ => do
    let left ← Work.leaveChild
    purpose.next left
  | .tokens base rest, .next => startTokens base rest
  | .tokens _ _, .escape => pure (.flow .next)
  | .program _, flow => pure (.flow flow)

/-- What is put back after a call that failed. -/
def Pending.unwind : Pending → Arena → Arena
  | .level, a => { a with depth := a.depth - 1 }
  | .word previous, a => { a with word := previous }
  | .child .select, a | .child .read, a => a.leave.endSelect
  | .child _, a => a.leave
  | .program base, a => a.unwind base
  | _, a => a

/-! ## Stages -/

/-- Where an evaluation stands. -/
structure Stage where
  focus : Focus
  waiting : List Pending
  arena : Arena

namespace Stage

/-- The stage after something was begun while something waited. -/
def on (waiting : List Pending) : Except Failure Course × Arena → Stage
  | (.ok c, a) => ⟨c.focus, c.waiting ++ waiting, a⟩
  | (.error e, a) => ⟨.ended (.error e), waiting, a⟩

/-- A single step. Where nothing waits any more, nothing happens. -/
def step (terms : Terms) : Stage → Stage
  | ⟨.call c, waiting, a⟩ => on waiting (c.start terms a)
  | ⟨.ended r, [], a⟩ => ⟨.ended r, [], a⟩
  | ⟨.ended (.ok flow), p :: waiting, a⟩ => on waiting (p.resume flow terms a)
  | ⟨.ended (.error e), p :: waiting, a⟩ => ⟨.ended (.error e), waiting, p.unwind a⟩

section Ceilings

variable {terms : Terms} {a : Arena} {w : List Pending} {items body : List Value} {passes : Nat}

theorem step_list_of_le (h : terms.limits.maxDepth ≤ a.depth) :
    step terms ⟨.call (.list items), w, a⟩
      = ⟨.ended (.error (.depthExceeded terms.limits.maxDepth)), w, a⟩ :=
  congrArg (on w) (startList_of_le h)

theorem step_list_of_lt (h : a.depth < terms.limits.maxDepth) :
    step terms ⟨.call (.list items), w, a⟩
      = ⟨.ended (.ok .next), .items items :: .level :: w, { a with depth := a.depth + 1 }⟩ :=
  congrArg (on w) (startList_of_lt h)

theorem step_pass_of_le (h : terms.limits.loopLimit ≤ passes) :
    step terms ⟨.call (.pass body passes), w, a⟩
      = ⟨.ended (.error (.runawayLoop terms.limits.loopLimit)), w, a⟩ :=
  congrArg (on w) (startPass_of_le h)

theorem step_pass_of_lt (h : passes < terms.limits.loopLimit) :
    step terms ⟨.call (.pass body passes), w, a⟩
      = ⟨.call (.list body), .loop body (passes + 1) :: w, a⟩ :=
  congrArg (on w) (startPass_of_lt h)

end Ceilings

/-- The stage after so many steps. -/
def after (terms : Terms) (s : Stage) (n : Nat) : Stage := (step terms)^[n] s

/-- The stage at which a program begins on the current frame of an arena. -/
def ofProgram (program : List Lexeme) (a : Arena) : Stage :=
  ⟨.ended (.ok .next), [.tokens a.current program, .program a.current], a⟩

end Stage

/-- Whether what waits is a list that is being run. -/
def Pending.isLevel : Pending → Bool
  | .level => true
  | _ => false

/-- The number of lists that are being run. -/
def Stage.lists (s : Stage) : Nat := s.waiting.countP Pending.isLevel

/-- A stage at which a failure comes up that was not there before. -/
def Stage.Raises (terms : Terms) (s : Stage) (e : Failure) : Prop :=
  (∀ e', s.focus ≠ .ended (.error e')) ∧ (s.step terms).focus = .ended (.error e)

end EntityBase.Machine
