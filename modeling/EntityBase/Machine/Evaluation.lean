import EntityBase.Machine.Words.Collection
import EntityBase.Machine.Words.Control
import EntityBase.Machine.Words.Logic
import EntityBase.Machine.Words.Select
import EntityBase.Machine.Words.Shuffle
import EntityBase.Machine.Words.Store

/-!
# Evaluation — running words and lists

`runList` runs the values of a list in turn: a quoted word does what it
stands for, anything else is pushed. It recurses on the number of levels
that are left, and every word that runs a list does so one level further
down; at level zero the ceiling on nesting is reached. That number is the
only measure: within one level, everything recurses on its own data.
-/

namespace EntityBase.Machine

/-- Runs as the native word with the given name. -/
def asWord {α : Type} (name : String) (m : Run α) : Run α := fun env s =>
  m { env with word := name } s

/-- A run without result as one that goes on. -/
def andNext (m : Run Unit) : Run Flow := do
  m
  pure .next

/-- What a host word does, the one that evaluates apart. -/
def runHost : HostWord → Run Flow
  | .popAny => andNext do Run.push (← Run.pop)
  | .popScalar => andNext do Run.push (.scalar (← Run.popScalar))
  | .popList => andNext do Run.push (.list (← Run.popList))
  | .popMap => andNext do Run.push (.map (← Run.popMap))
  | .popInteger => andNext do Run.push (.int (← Run.popInteger))
  | .popName => andNext do Run.push (.text (← Run.popName))
  | .popEntitySet => andNext do
    Run.popEntitySet
    Run.push .entitySet
  | .popBitfield => andNext do Run.push (.bitfield (← Run.popBitfield))
  | .popAttr => andNext do Run.push (.attr (← Run.popAttr))
  | .drain => andNext (Run.modifyItems fun items => [.int items.length])
  | .escape => pure .escape
  | .eval => andNext do
    let _ ← Run.pop
  | .one => andNext (Run.push (.int 1))
  | .two => andNext (Run.push (.int 2))

/-- What a native word does, given how a list is run. -/
def runNative (runList : List Value → Run Flow) : Native → Run Flow
  | .shuffle w => andNext (runShuffle w)
  | .logic w => andNext (runLogic w)
  | .collection w => andNext (runCollection w)
  | .control w => runControl runList w
  | .store w => andNext (runStoreWord w)
  | .select w => andNext (runSelectWord w)
  | .host w => runHost w

/-- Does what a quoted word stands for, given how a name is run. -/
def runQuoted (runName : String → Run Flow) : QuotedWord → Run Flow
  | .word name => runName name
  | .ref name => andNext do
    Run.push (← Run.binding name (← Run.frames) (← Run.items))
  | .backRef name => andNext do
    Run.push (← Run.backRef name (← Run.enclosing) (← Run.items))
  | .escaped depth rest => andNext do
    if depth = 1 then Run.push (.quoted (QuotedWord.ofText rest))
    else Run.push (.quoted (.escaped (depth - 1) rest))
  | .attr path => andNext do Run.push (.attr (← Run.attrOf path))

/-- Evaluates a value, given how a name is run. -/
def runValueBy (runName : String → Run Flow) : Value → Run Flow
  | .scalar (.quoted q) => runQuoted runName q
  | v => andNext (Run.push v)

/-- Runs a word. A list that it stands for absorbs an escape. -/
def runAction (runList : List Value → Run Flow) (name : String) : Action → Run Flow
  | .native n => asWord name (runNative runList n)
  | .body items => do
    let _ ← runList items
    pure .next
  | .value v => andNext (Run.push v)

/-- Runs what has a name; a name that nothing has is a text. The host word
that evaluates takes an item each time, and so the fuel, the number of
items, is enough. -/
def runNameBy (runList : List Value → Run Flow) : Nat → String → Run Flow
  | 0, name => do
    match ← Run.resolve name with
    | none => andNext (Run.push (.text name))
    | some w => runAction runList name w.action
  | fuel + 1, name => do
    match ← Run.resolve name with
    | none => andNext (Run.push (.text name))
    | some { action := .native (.host .eval), .. } =>
      asWord name do
        runValueBy (runNameBy runList fuel) (← Run.pop)
    | some w => runAction runList name w.action

/-- Runs what has a name. -/
def runName (runList : List Value → Run Flow) (name : String) : Run Flow := do
  runNameBy runList (← Run.items).length name

/-- Evaluates a value. -/
def runValue (runList : List Value → Run Flow) (v : Value) : Run Flow :=
  runValueBy (runName runList) v

/-- Evaluates values in turn, up to an escape. -/
def runValues (runList : List Value → Run Flow) : List Value → Run Flow
  | [] => pure .next
  | v :: rest => fun env s =>
    match runValue runList v env s with
    | (.ok .next, s) => runValues runList rest env s
    | r => r

/-- Runs a list with a number of levels left. -/
def runList : Nat → List Value → Run Flow
  | 0, _ => do
    Run.fail (.depthExceeded (← Run.env).limits.maxDepth)
  | levels + 1, items => runValues (runList levels) items

end EntityBase.Machine
