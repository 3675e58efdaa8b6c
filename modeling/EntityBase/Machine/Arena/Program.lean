import EntityBase.Machine.Arena.Evaluation
import EntityBase.Machine.Session

/-!
# Programs on an arena

The tokens of a program run on the frame that is current at its start, its
**base**. An opening bracket enters a cell for a literal, in which values are
gathered, and the closing one leaves it. A failure drops the literals that are
open. What a run leaves on the arena is where the next one goes on.
-/

namespace EntityBase.Machine.Arena

/-- The place of the nearest frame on which words run, from a place outwards. -/
def evalPlace (cells : Array Cell) (i : Nat) : Nat :=
  match (cells.getD i {}).kind, (cells.getD i {}).parent with
  | .literal _, some p => if p < i then evalPlace cells p else i
  | _, _ => i
termination_by i

/-- The value that a token stands for in the literal that is open. Back references
are followed from the frame that the literals stand in. -/
def captureToken (t : Token) (span : Span) : Work Value := fun terms a =>
  let place := evalPlace a.cells a.current
  ((capture a.frame.items t span (a.envAt terms place) (a.stateAt place)).1, a)

/-- Evaluates a token outside of literals, given how a name is run. -/
def evalToken (invoke : String → Work Flow) (t : Token) (span : Span) : Work Flow :=
  match t with
  | .word name => invoke name
  | .ref name => evalQuoted invoke (.ref name)
  | .backRef name => evalQuoted invoke (.backRef name)
  | .escaped text => evalQuoted invoke (QuotedWord.ofText text)
  | .attr path => evalQuoted invoke (.attr path)
  | t => do
    let v ← captureToken t span
    Run.push v
    pure .next

/-- Opens a literal. -/
def openLiteral (a : Arena) (kind : LiteralKind) (span : Span) : Arena :=
  a.enter { kind := .literal kind, openedAt := span }

/-- The literal that a cell gathers. -/
def literalOf (c : Cell) : OpenLiteral :=
  { kind := match c.kind with
      | .literal kind => kind
      | .eval => .list
    span := c.openedAt
    items := c.frame.items }

/-- Closes the literal that is open and pushes its value on the frame around it. -/
def closeLiteral : Work Unit := fun terms a =>
  match (literalOf a.last).value with
  | .ok v => (.ok (), a.leave.push v)
  | .error c => Work.lift (do Run.complain "\x7d" c (← Run.items)) terms a.leave

/-- Runs tokens. An escape outside of literals ends the program. -/
def runTokens (evalList : List Value → Work Flow) (base : Nat) : List Lexeme → Work Unit
  | [] => fun _ a =>
    if a.current = base then (.ok (), a) else (.error (.unclosedScope a.cell.openedAt), a)
  | ⟨t, span⟩ :: rest => fun terms a =>
    match opens t, closes t with
    | some kind, _ => runTokens evalList base rest terms (a.openLiteral kind span)
    | none, some kind =>
      if a.current = base ∨ a.cell.kind ≠ .literal kind then (.error (.unexpectedClose span), a)
      else
        match closeLiteral terms a with
        | (.ok (), a) => runTokens evalList base rest terms a
        | (.error e, a) => (.error e, a)
    | none, none =>
      match a.cell.kind with
      | .eval =>
        match evalToken (invoke evalList) t span terms a with
        | (.ok .next, a) => runTokens evalList base rest terms a
        | (.ok .escape, a) => (.ok (), a)
        | (.error e, a) => (.error e, a)
      | .literal _ =>
        match captureToken t span terms a with
        | (.ok v, a) => runTokens evalList base rest terms (a.push v)
        | (.error e, a) => (.error e, a)

/-- Runs the tokens of a program on the current frame. A failure drops what is
open. -/
def runProgram (program : List Lexeme) : Work Unit := fun terms a =>
  match runTokens (evalList terms.limits.maxDepth) a.current program terms a with
  | (.ok (), a') => (.ok (), a')
  | (.error e, a') => (.error e, a'.unwind a.current)

/-- The arena with nothing but an empty first frame. -/
def reset (a : Arena) : Arena :=
  { a with
    cells := (a.cells.take 1).modify 0 fun c => { c with frame := {} }
    current := 0
    depth := 0
    selections := [] }

/-- Runs a source under options. -/
def runWith (options : RunOptions) (source : String) : Work Unit := fun terms a =>
  let a := if options.reset then a.reset else a
  let a := a.setFrame { a.frame with items := options.values.reverse ++ a.frame.items }
  match Lexer.tokenize source with
  | .error refusal => (.error (.ofRefusal refusal), a)
  | .ok program => runProgram program terms a

end EntityBase.Machine.Arena

namespace EntityBase.Machine

/-- One run on an arena that stays: its terms, the store that it finds, its options
and its source. -/
structure Turn where
  terms : Terms
  store : Option Store
  options : RunOptions
  source : String

/-- Takes a turn on an arena. The journal holds what this turn wrote. -/
def Turn.run (t : Turn) (a : Arena) : Except Failure Unit × Arena :=
  Arena.runWith t.options t.source t.terms { a with store := t.store, journal := {} }

end EntityBase.Machine
