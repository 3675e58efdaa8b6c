import EntityBase.Failure
import EntityBase.Machine.Dictionary
import EntityBase.Selection
import EntityBase.Store.Report

/-!
# The machine — a frame, its surroundings and what runs on it

A program runs on a **frame**: a stack of items and the words defined on
it. Frames nest. The state holds the current frame only; the enclosing
frames are part of the surroundings `Env`, which a run reads and cannot
change. So nothing that runs on an inner frame touches an outer one.

The state also holds the store, the settings of a select program and a
journal of printed lines and notices. A run gives a result or a failure,
and the state that it leaves either way.
-/

namespace EntityBase.Machine

/-- The ceilings and the policy of a machine. -/
structure Limits where
  /-- passes of one loop -/
  loopLimit : Nat := 10000
  /-- whether an unknown definition is a failure -/
  strictDefs : Bool := true
  /-- items that a failure shows -/
  snapshotLen : Nat := 5
  /-- nested evaluations -/
  maxDepth : Nat := 128
deriving DecidableEq, Repr, Inhabited

/-- A stack of items, the top one first, with the words defined on it, the
newest one first. -/
structure Frame where
  items : List Value := []
  words : Words := []
deriving Inhabited

/-- What a run wrote down. -/
structure Journal where
  printed : Array String := #[]
  notices : Array Notice := #[]
deriving Inhabited

/-- The surroundings of a run. -/
structure Env where
  limits : Limits
  /-- the present moment -/
  now : Instant
  /-- the native word that runs -/
  word : String := ""
  /-- the enclosing frames, the innermost first -/
  outer : List Frame := []
deriving Inhabited

/-- What a run changes. -/
structure State where
  frame : Frame := {}
  store : Option Store := none
  selection : Option Selection := none
  journal : Journal := {}
deriving Inhabited

/-- A run: a result or a failure, and the state after it. -/
def Run (α : Type) : Type := Env → State → Except Failure α × State

/-- Whether what runs next is to be skipped up to the end of the list. -/
inductive Flow where
  | next
  | escape
deriving DecidableEq, Repr, Inhabited

namespace Run

/-- The run that gives a result and changes nothing. -/
def pure {α : Type} (a : α) : Run α := fun _ s => (.ok a, s)

/-- One run after another; a failure ends it. -/
def bind {α β : Type} (m : Run α) (f : α → Run β) : Run β := fun env s =>
  match m env s with
  | (.ok a, s) => f a env s
  | (.error e, s) => (.error e, s)

instance : Monad Run := { pure, bind }

instance {α : Type} : Inhabited (Run α) := ⟨fun _ s => (.error (.stackUnderflow ""), s)⟩

/-- The run that fails. -/
def fail {α : Type} (e : Failure) : Run α := fun _ s => (.error e, s)

/-- The surroundings. -/
def env : Run Env := fun env s => (.ok env, s)

/-- The state. -/
def get : Run State := fun _ s => (.ok s, s)

/-- Changes the state. -/
def modify (f : State → State) : Run Unit := fun _ s => (.ok (), f s)

/-- Changes the items. -/
def modifyItems (f : List Value → List Value) : Run Unit :=
  modify fun s => { s with frame := { s.frame with items := f s.frame.items } }

/-- The items of the current frame, the top one first. -/
def items : Run (List Value) := fun _ s => (.ok s.frame.items, s)

/-- Pushes a value. -/
def push (v : Value) : Run Unit := modifyItems (v :: ·)

end Run

/-! ## Failures with what the stack shows -/

/-- The display of the top of a stack: as many items as the limits say, the
top one last, and a mark if there are more. -/
def snapshot (limits : Limits) (items : List Value) : String :=
  let shown := (items.take limits.snapshotLen).reverse.map Value.display
  let text := String.intercalate " " shown
  if limits.snapshotLen < items.length then "... " ++ text else text

/-- Fails with a complaint of a named word over some items. -/
def Run.complain {α : Type} (word : String) (c : Complaint) (items : List Value) : Run α := do
  Run.fail (.invalidArguments word c (snapshot (← Run.env).limits items))

/-- Fails with a complaint of the native word that runs. -/
def Run.invalid {α : Type} (c : Complaint) : Run α := do
  Run.complain (← Run.env).word c (← Run.items)

/-- Fails because two kinds do not go together. -/
def Run.incompatible {α : Type} (left right : Value) : Run α := do
  Run.fail (.incompatibleTypes (← Run.env).word left.kind right.kind)

/-- A computation on values as a part of the native word that runs. -/
def Run.ofExcept {α : Type} : Except Objection α → Run α
  | .ok a => Run.pure a
  | .error (.complaint c) => Run.invalid c
  | .error (.refusal e) => Run.fail (.ofStore e)

/-! ## Taking items -/

/-- Takes the top item. -/
def Run.pop : Run Value := fun env s =>
  match s.frame.items with
  | v :: rest => (.ok v, { s with frame := { s.frame with items := rest } })
  | [] => (.error (.stackUnderflow env.word), s)

/-- Takes the top item if it is of a kind. -/
def Run.popIf (k : Kind) : Run (Option Value) := fun _ s =>
  match s.frame.items with
  | v :: rest =>
    if v.isOf k then (.ok (some v), { s with frame := { s.frame with items := rest } })
    else (.ok none, s)
  | [] => (.ok none, s)

/-- Takes the top item and reads it; an item that cannot be read is lost. -/
def Run.popAs {α : Type} (what : Expectation) (read : Value → Option α) : Run α := do
  let v ← Run.pop
  match read v with
  | some a => pure a
  | none => Run.invalid (.expected what v.kind)

/-- Takes a scalar. -/
def Run.popScalar : Run Scalar := Run.popAs .scalar fun
  | .scalar s => some s
  | _ => none

/-- Takes a list. -/
def Run.popList : Run (List Value) := Run.popAs .list fun
  | .list items => some items
  | _ => none

/-- Takes a map. -/
def Run.popMap : Run (List (String × Value)) := Run.popAs .map fun
  | .map fields => some fields
  | _ => none

/-- Takes a whole number. -/
def Run.popInteger : Run Int := Run.popAs .integer Value.toInt?

/-- Takes a text or a quoted word as a name. -/
def Run.popName : Run String := Run.popAs .name Value.name?

/-- Takes the entity set. -/
def Run.popEntitySet : Run Unit := Run.popAs .entitySet fun
  | .entitySet => some ()
  | _ => none

/-- Takes a bitfield. -/
def Run.popBitfield : Run Bitfield := Run.popAs .bitfield fun
  | .bitfield b => some b
  | _ => none

/-- Takes an attribute. -/
def Run.popAttr : Run Attribute := Run.popAs .attr fun
  | .attr a => some a
  | _ => none

/-- Takes a component. -/
def Run.popComponent : Run Component := Run.popAs .component fun
  | .component c => some c
  | _ => none

/-- Takes an entity. -/
def Run.popEntity : Run Entity := Run.popAs .entity fun
  | .entity e => some e
  | _ => none

/-! ## The store and the journal -/

/-- The store; a word that needs one fails without it. -/
def Run.store : Run Store := do
  match (← Run.get).store with
  | some s => pure s
  | none => Run.fail (.noStore (← Run.env).word)

/-- Puts a store in place of the current one. -/
def Run.setStore (s : Store) : Run Unit := Run.modify fun st => { st with store := some s }

/-- Makes a call on the store, in place. The store stays as the call leaves it,
also where the call is refused. -/
def Run.onStore {α : Type} (call : Update Store α) : Run α := do
  match call.run (← Run.store) with
  | .ok a s =>
    Run.setStore s
    pure a
  | .error e s =>
    Run.setStore s
    Run.fail (.ofStore e)

/-- Writes notices down. -/
def Run.notify (notices : List Notice) : Run Unit :=
  Run.modify fun s =>
    { s with journal := { s.journal with notices := s.journal.notices ++ notices } }

/-- Writes a printed line down. -/
def Run.printLine (line : String) : Run Unit :=
  Run.modify fun s => { s with journal := { s.journal with printed := s.journal.printed.push line } }

/-! ## Names -/

/-- Defines a word on the current frame, ahead of those that are there. -/
def Run.define (name : String) (w : Word) : Run Unit :=
  Run.modify fun s => { s with frame := { s.frame with words := (name, w) :: s.frame.words } }

/-- The value that a name stands for in frames, the innermost first. -/
def bindingIn? (name : String) (frames : List Frame) : Option Value :=
  (frames.flatMap fun f => f.words.named name).findSome? Word.binding?

/-- The value that a name stands for, seen from some frames; `shown` is
what a failure shows. -/
def Run.binding (name : String) (frames : List Frame) (shown : List Value) : Run Value :=
  match bindingIn? name frames with
  | some v => pure v
  | none => Run.complain ("$" ++ name) .noBinding shown

/-- The overloads of a name that a program sees, in the order in which they
are tried. -/
def overloads (name : String) (frames : List Frame) : List Word :=
  (frames.flatMap fun f => f.words.named name) ++ Dictionary.builtin name

/-- The frames that a run sees, the current one first. -/
def Run.frames : Run (List Frame) := do
  pure ((← Run.get).frame :: (← Run.env).outer)

/-- The first overload that takes what is on the stack. A name without
overloads is no word. -/
def Run.resolve (name : String) : Run (Option Word) := do
  let candidates := overloads name (← Run.frames)
  let items ← Run.items
  if candidates.isEmpty then pure none
  else
    match candidates.find? fun w => w.accepts items with
    | some w => pure (some w)
    | none => Run.complain name (.noOverload (candidates.map (·.pattern))) items

/-! ## References -/

/-- A number of 64 bits in digits, perhaps with a plus sign. -/
def position? (text : List Char) : Option Nat :=
  let digits := match text with
    | '+' :: digits => digits
    | digits => digits
  (Json.digitsValue? digits).bind fun n => if n < 18446744073709551616 then some n else none

/-- What a back reference refers to, seen from some frames: an item of the
first one by its distance from the top, or a binding. -/
def Run.backRef (name : String) (frames : List Frame) (shown : List Value) : Run Value :=
  match position? name.toList with
  | some n =>
    match (frames.head?.bind fun f => f.items[n]?) with
    | some v => pure v
    | none => Run.fail (.stackUnderflow ("^" ++ name))
  | none => Run.binding name frames shown

/-- The frames from which a list that runs looks back: those around the
current one, or itself if there is none. -/
def Run.enclosing : Run (List Frame) := do
  match (← Run.env).outer with
  | [] => pure [(← Run.get).frame]
  | outer => pure outer

/-- A path at its first number sign. -/
def splitPath (path : String) : String × String :=
  let cs := path.toList
  (String.ofList (cs.takeWhile (· != '#')), String.ofList ((cs.dropWhile (· != '#')).drop 1))

/-- The attribute that a path names. -/
def Run.attrOf (path : String) : Run Attribute := do
  let (uri, pointer) := splitPath path
  let store ← Run.store
  match store.definition? (.uri uri) with
  | some d => pure (.of d.id pointer)
  | none =>
    if (← Run.env).limits.strictDefs then Run.fail (.defNotFound uri)
    else pure ⟨.empty, pointer⟩

end EntityBase.Machine
