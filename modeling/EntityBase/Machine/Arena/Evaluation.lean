import EntityBase.Machine.Arena.Basic

/-!
# Evaluation on an arena

Words and lists run on the frames of an arena as they do on frames that nest: a
word that runs a list on a frame of its own enters a cell, runs the list there
and leaves the cell again. Everything that runs no list is a run on the current
frame. Running a list counts the depth, and at the ceiling it fails.

As with frames that nest, running a list is a parameter of the words, and the
recursion is on a number of levels. The ceiling is reached before the levels are
used up, as long as these are as many as the ceiling leaves.
-/

namespace EntityBase.Machine.Arena

/-! ## Words that run lists -/

section Control

variable (evalList : List Value → Work Flow)

/-- Runs a body until it escapes or leaves nothing or nothing true on top; what
it leaves on top is taken each time. The last argument is the number of passes
that are left. -/
def loopPasses (limit : Nat) (body : List Value) : Nat → Work Unit
  | 0 => Work.fail (.runawayLoop limit)
  | n + 1 => do
    match ← evalList body with
    | .escape => pure ()
    | .next =>
      match ← Run.popIf .any with
      | some v => if v.truthy then loopPasses limit body n else pure ()
      | none => pure ()

/-- Runs a body on each item and gathers what it leaves, after what was gathered
before (the last item first). -/
def mapItems (body : List Value) : List Value → List Value → Work (List Value)
  | gathered, [] => pure gathered
  | gathered, v :: rest => do
    let left ← Work.onChild { items := [v] } (evalList body)
    mapItems body (left ++ gathered) rest

/-- Runs a body on each item and gathers the items for which it leaves something
true on top, after those gathered before (the last item first). -/
def filterItems (body : List Value) : List Value → List Value → Work (List Value)
  | gathered, [] => pure gathered
  | gathered, v :: rest => do
    let left ← Work.onChild { items := [v] } (evalList body)
    filterItems body (if left.head?.any Value.truthy then v :: gathered else gathered) rest

/-- Runs a body on what was accumulated and each item in turn; what it leaves on
top is accumulated. -/
def reduceItems (body : List Value) : Value → List Value → Work Value
  | acc, [] => pure acc
  | acc, v :: rest => do
    let left ← Work.onChild { items := [v, acc] } (evalList body)
    reduceItems body (left.head?.getD Value.nil) rest

/-- Runs a select program and, unless it read something, reads the entities. -/
def selectItems (body : List Value) : Work (List Value) := do
  let left ← Work.onChild { words := Dictionary.selectScope } (evalList body)
  let settings ← Run.selection
  if settings.read then pure left
  else Work.onChild { items := left, words := Dictionary.selectScope } (evalList implicitReader)

/-- Runs a select program with settings of its own. -/
def runSelect (body : List Value) : Work Unit := do
  let (items, settings) ← Work.selecting (selectItems evalList body)
  Run.push (selectResult (settings.any (·.count)) items)

/-- What a control word does. -/
def runControl : ControlWord → Work Flow
  | .spread => do
    evalList (← Run.popList)
  | .eval => do
    let body ← Run.popList
    let left ← Work.onChild {} (evalList body)
    Run.push (.list left.reverse)
    pure .next
  | .ifTrue => do
    let body ← Run.popList
    let condition ← Run.pop
    if condition.truthy then evalList body else pure .next
  | .ifElse => do
    let otherwise ← Run.popList
    let body ← Run.popList
    let condition ← Run.pop
    if condition.truthy then evalList body else evalList otherwise
  | .loop => do
    let body ← Run.popList
    let limit := (← Run.env).limits.loopLimit
    loopPasses evalList limit body limit
    pure .next
  | .map => do
    let body ← Run.popList
    let items ← Run.popList
    let gathered ← mapItems evalList body [] items
    Run.push (.list gathered.reverse)
    pure .next
  | .filter => do
    let body ← Run.popList
    let items ← Run.popList
    let gathered ← filterItems evalList body [] items
    Run.push (.list gathered.reverse)
    pure .next
  | .reduce => do
    let body ← Run.popList
    let acc ← Run.pop
    let items ← Run.popList
    let v ← reduceItems evalList body acc items
    Run.push v
    pure .next
  | .select => do
    let body ← Run.popList
    Run.popEntitySet
    runSelect evalList body
    pure .next
  -- the other ones run no list
  | w => Machine.runControl (fun _ => pure .next) w

/-! ## Names, values and lists -/

/-- What a native word does. -/
def runNative : Native → Work Flow
  | .control w => runControl evalList w
  -- the other ones run no list
  | n => Machine.runNative (fun _ => pure .next) n

/-- Runs a word. A list that it stands for absorbs an escape. -/
def runAction (name : String) : Action → Work Flow
  | .native n => Work.asWord name (runNative evalList n)
  | .body items => do
    let _ ← evalList items
    pure .next
  | .value v => andNext (Run.push v)

end Control

/-- Does what a quoted word stands for, given how a name is run. -/
def evalQuoted (invoke : String → Work Flow) : QuotedWord → Work Flow
  | .word name => invoke name
  -- the other ones run nothing
  | q => runQuoted (fun _ => pure .next) q

/-- Evaluates a value, given how a name is run. -/
def evalValueBy (invoke : String → Work Flow) : Value → Work Flow
  | .scalar (.quoted q) => evalQuoted invoke q
  | v => andNext (Run.push v)

section Lists

variable (evalList : List Value → Work Flow)

/-- Runs what has a name; a name that nothing has is a text. The host word that
evaluates takes an item each time, and so the fuel, the number of items, is
enough. -/
def invokeBy : Nat → String → Work Flow
  | 0, name => do
    match ← Run.resolve name with
    | none => andNext (Run.push (.text name))
    | some w => runAction evalList name w.action
  | fuel + 1, name => do
    match ← Run.resolve name with
    | none => andNext (Run.push (.text name))
    | some { action := .native (.host .eval), .. } =>
      Work.asWord name do
        evalValueBy (invokeBy fuel) (← Run.pop)
    | some w => runAction evalList name w.action

/-- Runs what has a name. -/
def invoke (name : String) : Work Flow := do
  invokeBy evalList (← Run.items).length name

/-- Evaluates values in turn, up to an escape. -/
def evalItems : List Value → Work Flow
  | [] => pure .next
  | v :: rest => do
    match ← evalValueBy (invoke evalList) v with
    | .next => evalItems rest
    | .escape => pure .escape

end Lists

/-- Runs a list, unless the ceiling on the depth is reached. -/
def evalList : Nat → List Value → Work Flow
  | 0, _ => fun terms a => (.error (.depthExceeded terms.limits.maxDepth), a)
  | levels + 1, items => fun terms a =>
    if terms.limits.maxDepth ≤ a.depth then (.error (.depthExceeded terms.limits.maxDepth), a)
    else Work.deeper (evalItems (evalList levels) items) terms a

end EntityBase.Machine.Arena
