import EntityBase.Machine.Program

/-!
# The arena — all frames in one array

A stack that stays keeps its frames in one array and knows the current one by
its place. A cell of the array holds a frame, the place of the frame around it
and what it is for: running, or gathering the items of a literal. Beside the
cells stand four pieces of bookkeeping: the current place, the depth of
evaluation, the native word that runs and the select programs that are under
way. Whatever sets one of them puts it back by hand.

**Work** on an arena reads the terms of its run and leaves a result or a failure
and the arena after it. A step that runs no list reads and writes the current
frame only: it is a run on what can be seen from there (`Work.lift`).
-/

namespace EntityBase.Machine

/-- What a cell is for. -/
inductive CellKind where
  /-- words run on it -/
  | eval
  /-- the items of a literal are gathered on it -/
  | literal (kind : LiteralKind)
deriving DecidableEq, Repr

/-- A frame in its place. -/
structure Cell where
  kind : CellKind := .eval
  /-- the place of the frame around it -/
  parent : Option Nat := none
  /-- where the literal was opened -/
  openedAt : Span := default
  frame : Frame := {}
deriving Inhabited

/-- The frames of a stack with their bookkeeping. -/
structure Arena where
  cells : Array Cell
  current : Nat := 0
  /-- the number of lists that are being run -/
  depth : Nat := 0
  /-- the native word that runs -/
  word : String := ""
  /-- the settings of the select programs that run, the innermost first -/
  selections : List Selection := []
  store : Option Store := none
  journal : Journal := {}
deriving Inhabited

/-- The terms of a run: its ceilings and the present moment. -/
structure Terms where
  limits : Limits
  now : Instant

/-! ## What can be seen from a place -/

/-- The frame at a place. -/
def frameAt (cells : Array Cell) (i : Nat) : Frame := (cells.getD i {}).frame

/-- The frames around a place, the innermost first. The frame around another one
stands before it. -/
def framesAround (cells : Array Cell) (i : Nat) : List Frame :=
  match (cells.getD i {}).parent with
  | some p => if p < i then frameAt cells p :: framesAround cells p else []
  | none => []
termination_by i

namespace Arena

/-- An arena with one frame. -/
def new (frame : Frame) : Arena := { cells := #[{ frame }] }

/-- The current cell. -/
def cell (a : Arena) : Cell := a.cells.getD a.current {}

/-- The current frame. -/
def frame (a : Arena) : Frame := a.cell.frame

/-- The items of the first frame, the top one last. -/
def stack (a : Arena) : List Value := (frameAt a.cells 0).items.reverse

/-- The surroundings of a run on the frame at a place. -/
def envAt (a : Arena) (terms : Terms) (i : Nat) : Env :=
  { limits := terms.limits, now := terms.now, word := a.word, outer := framesAround a.cells i }

/-- The state of a run on the frame at a place. -/
def stateAt (a : Arena) (i : Nat) : State :=
  { frame := frameAt a.cells i
    store := a.store
    selection := a.selections.head?
    journal := a.journal }

/-- The surroundings of a run on the current frame. -/
def env (a : Arena) (terms : Terms) : Env := a.envAt terms a.current

/-- The state of a run on the current frame. -/
def state (a : Arena) : State := a.stateAt a.current

/-- Changes the current frame. -/
def setFrame (a : Arena) (frame : Frame) : Arena :=
  { a with cells := a.cells.modify a.current fun c => { c with frame } }

/-- Pushes a value on the current frame. -/
def push (a : Arena) (v : Value) : Arena :=
  a.setFrame { a.frame with items := v :: a.frame.items }

/-- Writes the state of a run back. -/
def put (a : Arena) (s : State) : Arena :=
  { a.setFrame s.frame with
    store := s.store
    selections := s.selection.toList ++ a.selections.tail
    journal := s.journal }

/-! ## Entering and leaving frames -/

/-- Puts a cell on top, inside the current one, and makes it the current one. -/
def enter (a : Arena) (c : Cell) : Arena :=
  { a with cells := a.cells.push { c with parent := some a.current }, current := a.cells.size }

/-- The last cell. -/
def last (a : Arena) : Cell := a.cells.back?.getD {}

/-- Takes the last cell away and goes back to the one around it. -/
def leave (a : Arena) : Arena :=
  { a with cells := a.cells.pop, current := a.last.parent.getD 0 }

/-- Drops the cells after a place and goes back to it. -/
def unwind (a : Arena) (base : Nat) : Arena :=
  { a with cells := a.cells.take (base + 1), current := base }

end Arena

/-! ## Work -/

/-- Work on an arena: a result or a failure, and the arena after it. -/
def Work (α : Type) : Type := Terms → Arena → Except Failure α × Arena

namespace Work

variable {α β : Type}

/-- The work that gives a result and changes nothing. -/
def pure (x : α) : Work α := fun _ a => (.ok x, a)

/-- One work after another; a failure ends it. -/
def bind (w : Work α) (f : α → Work β) : Work β := fun terms a =>
  match w terms a with
  | (.ok x, a) => f x terms a
  | (.error e, a) => (.error e, a)

instance : Monad Work := { pure, bind }

/-- The work that fails. -/
def fail (e : Failure) : Work α := fun _ a => (.error e, a)

/-- A run on the current frame. -/
def lift (m : Run α) : Work α := fun terms a =>
  match m (a.env terms) a.state with
  | (r, s) => (r, a.put s)

instance : MonadLift Run Work := ⟨lift⟩

/-- Work as the native word with the given name. The word that ran before is the
one that runs after, whatever comes of it. -/
def asWord (name : String) (w : Work α) : Work α := fun terms a =>
  match w terms { a with word := name } with
  | (r, a') => (r, { a' with word := a.word })

/-- Work one level down. -/
def deeper (w : Work α) : Work α := fun terms a =>
  match w terms { a with depth := a.depth + 1 } with
  | (r, a') => (r, { a' with depth := a'.depth - 1 })

/-- Work on a frame of its own. Its items are what is left, and the frame goes
whatever comes of it. -/
def onChild (frame : Frame) (w : Work Flow) : Work (List Value) := fun terms a =>
  match w terms (a.enter { frame }) with
  | (r, a') => (r.map fun _ => a'.last.frame.items, a'.leave)

/-- Work as a select program, with settings of its own, and the settings that it
left. They go whatever comes of it. -/
def selecting (w : Work α) : Work (α × Option Selection) := fun terms a =>
  match w terms { a with selections := {} :: a.selections } with
  | (r, a') => (r.map fun x => (x, a'.selections.head?), { a' with selections := a'.selections.tail })

end Work

end EntityBase.Machine
