import EntityBase.Machine.Basic

/-!
# Words that define words and run lists

`break` skips the rest of the list that runs. A list that is run in place
hands the escape on to the list it stands in; a loop and a list that runs on
a frame of its own end with it.

Running a list is a parameter here: it is what the machine does one level
further down.
-/

namespace EntityBase.Machine

/-- Runs a list on a frame of its own and gives the items that it leaves,
the top one first. Whatever comes of it, the frame that was there is there
again. -/
def onFrame (runList : List Value → Run Flow) (frame : Frame) (body : List Value) :
    Run (List Value) := fun env s =>
  match runList body { env with outer := s.frame :: env.outer } { s with frame } with
  | (.ok _, s') => (.ok s'.frame.items, { s' with frame := s.frame })
  | (.error e, s') => (.error e, { s' with frame := s.frame })

/-- Runs a body until it escapes or leaves nothing or nothing true on top;
what it leaves on top is taken each time. The first argument is the number
of passes that are left. -/
def loopPasses (runList : List Value → Run Flow) (limit : Nat) (body : List Value) :
    Nat → Run Unit
  | 0 => Run.fail (.runawayLoop limit)
  | n + 1 => fun env s =>
    match runList body env s with
    | (.error e, s) => (.error e, s)
    | (.ok .escape, s) => (.ok (), s)
    | (.ok .next, s) =>
      match s.frame.items with
      | [] => (.ok (), s)
      | v :: rest =>
        let s := { s with frame := { s.frame with items := rest } }
        if v.truthy then loopPasses runList limit body n env s else (.ok (), s)

/-- Runs a body on each item and gathers what it leaves, after what was
gathered before (the last item first). -/
def mapItems (runList : List Value → Run Flow) (body : List Value) :
    List Value → List Value → Run (List Value)
  | gathered, [] => pure gathered
  | gathered, v :: rest => fun env s =>
    match onFrame runList { items := [v] } body env s with
    | (.ok items, s) => mapItems runList body (items ++ gathered) rest env s
    | (.error e, s) => (.error e, s)

/-- Runs a body on each item and gathers the items for which it leaves
something true on top, after those gathered before (the last item first). -/
def filterItems (runList : List Value → Run Flow) (body : List Value) :
    List Value → List Value → Run (List Value)
  | gathered, [] => pure gathered
  | gathered, v :: rest => fun env s =>
    match onFrame runList { items := [v] } body env s with
    | (.ok (top :: _), s) =>
      filterItems runList body (if top.truthy then v :: gathered else gathered) rest env s
    | (.ok [], s) => filterItems runList body gathered rest env s
    | (.error e, s) => (.error e, s)

/-- Runs a body on what was accumulated and each item in turn; what it
leaves on top is accumulated. -/
def reduceItems (runList : List Value → Run Flow) (body : List Value) :
    Value → List Value → Run Value
  | acc, [] => pure acc
  | acc, v :: rest => fun env s =>
    match onFrame runList { items := [v, acc] } body env s with
    | (.ok items, s) => reduceItems runList body (items.head?.getD Value.nil) rest env s
    | (.error e, s) => (.error e, s)

/-- The list that a select program without a reader is read with. -/
def implicitReader : List Value := [.quoted (.word "@e")]

/-- Runs a select program and, unless it read something, reads the
entities. -/
def selectItems (runList : List Value → Run Flow) (body : List Value) : Run (List Value) := do
  let items ← onFrame runList { words := Dictionary.selectScope } body
  match (← Run.get).selection with
  | some { read := false, .. } =>
    onFrame runList { items, words := Dictionary.selectScope } implicitReader
  | _ => pure items

/-- What a select program gives: a single list or count as it is, anything
else as a list of what it left. -/
def selectResult (count : Bool) : List Value → Value
  | [.list items] => .list items
  | [v] => if count then v else .list [v]
  | items => .list items.reverse

/-- Runs a select program with settings of its own. -/
def runSelect (runList : List Value → Run Flow) (body : List Value) : Run Unit := fun env s =>
  match selectItems runList body env { s with selection := some {} } with
  | (.ok items, s') =>
    let count := match s'.selection with
      | some sel => sel.count
      | none => false
    Run.push (selectResult count items) env { s' with selection := s.selection }
  | (.error e, s') => (.error e, { s' with selection := s.selection })

/-- What the word does. -/
def runControl (runList : List Value → Run Flow) : ControlWord → Run Flow
  | .define => do
    let name ← Run.popName
    let body ← Run.popList
    Run.define name { action := .body body }
    pure .next
  | .bind => do
    let name ← Run.popName
    let v ← Run.pop
    Run.define name { action := .value v }
    pure .next
  | .spread => do
    runList (← Run.popList)
  | .eval => do
    let body ← Run.popList
    let items ← onFrame runList {} body
    Run.push (.list items.reverse)
    pure .next
  | .ifTrue => do
    let body ← Run.popList
    let condition ← Run.pop
    if condition.truthy then runList body else pure .next
  | .ifElse => do
    let otherwise ← Run.popList
    let body ← Run.popList
    let condition ← Run.pop
    if condition.truthy then runList body else runList otherwise
  | .loop => do
    let body ← Run.popList
    let limit := (← Run.env).limits.loopLimit
    loopPasses runList limit body limit
    pure .next
  | .escape => pure .escape
  | .map => do
    let body ← Run.popList
    let items ← Run.popList
    let gathered ← mapItems runList body [] items
    Run.push (.list gathered.reverse)
    pure .next
  | .filter => do
    let body ← Run.popList
    let items ← Run.popList
    let gathered ← filterItems runList body [] items
    Run.push (.list gathered.reverse)
    pure .next
  | .reduce => do
    let body ← Run.popList
    let acc ← Run.pop
    let items ← Run.popList
    Run.push (← reduceItems runList body acc items)
    pure .next
  | .print => do
    let v ← Run.pop
    Run.printLine v.display
    pure .next
  | .select => do
    let body ← Run.popList
    Run.popEntitySet
    runSelect runList body
    pure .next

end EntityBase.Machine
