import EntityBase.Machine.Program

/-!
# Runs on a stack that stays

A run may first be given values, which it finds on top of the stack, and
may be asked to forget everything before that. What it leaves in the state
is where the next run goes on.
-/

namespace EntityBase.Machine

/-- How a run starts. -/
structure RunOptions where
  /-- pushed in this order -/
  values : List Value := []
  /-- empties the stack and forgets its words first -/
  reset : Bool := false

namespace State

/-- The state without items and words. -/
def reset (s : State) : State := { s with frame := {}, selection := none }

/-- The state in which a run starts. -/
def prepare (s : State) (options : RunOptions) : State :=
  let s := if options.reset then s.reset else s
  { s with frame := { s.frame with items := options.values.reverse ++ s.frame.items } }

/-- The items, the top one last. -/
def stack (s : State) : List Value := s.frame.items.reverse

end State

/-- Runs a program under options. -/
def runWith (options : RunOptions) (source : String) : Run Unit := do
  Run.modify fun s => s.prepare options
  runSource source

end EntityBase.Machine
