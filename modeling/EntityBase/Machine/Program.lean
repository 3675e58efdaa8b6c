import EntityBase.Machine.Evaluation

/-!
# Programs — running the tokens of a text

Outside of brackets each token is evaluated as it comes. An opening bracket
begins a literal: up to its closing bracket, tokens are captured as values.
Only back references are followed at once, from the frame that the literal
stands in. A failure drops the literals that are open; the frame keeps what
it held.
-/

namespace EntityBase.Machine

/-- The two kinds of literals. -/
inductive LiteralKind where
  | list
  | map
deriving DecidableEq, Repr

/-- A literal that is open: where it was opened, and its items so far, the
last one first. -/
structure OpenLiteral where
  kind : LiteralKind
  span : Span
  items : List Value := []

/-- The flags of a pattern, letter by letter. -/
def patternFlags (flags : Pattern.Flags) : List Char → Except Char Pattern.Flags
  | [] => .ok flags
  | c :: rest =>
    match c with
    | 'i' => patternFlags { flags with ignoreCase := true } rest
    | 'm' => patternFlags { flags with multiLine := true } rest
    | 's' => patternFlags { flags with dotAll := true } rest
    | 'x' => patternFlags { flags with blanks := true } rest
    | 'g' | 'u' => patternFlags flags rest
    | c => .error c

/-- Reads a pattern literal. -/
def readPattern (source flags : String) : Except TextProblem Pattern :=
  match patternFlags {} flags.toList with
  | .error c => .error (.unknownFlag c)
  | .ok f =>
    match Pattern.compile? f source with
    | some p => .ok p
    | none => .error .badPattern

/-- Reads a date literal; an empty one is the present moment. -/
def readDate (now : Instant) (text : String) : Except TextProblem Instant :=
  if (Text.trim text.toList).isEmpty then .ok now
  else
    match Instant.parse? text with
    | some t => .ok t
    | none => .error (.badDate text)

/-- The value that a token stands for in a literal. `shown` is what a
failure shows. -/
def capture (shown : List Value) (t : Token) (span : Span) : Run Value := do
  match t with
  | .int n => pure (.int n)
  | .float x => pure (.scalar (.float x))
  | .text s | .key s => pure (.text s)
  | .bool b => pure (.bool b)
  | .nil => pure .nil
  | .word name => pure (.quoted (.word name))
  | .ref name => pure (.quoted (.ref name))
  | .escaped text => pure (.quoted (QuotedWord.ofText text))
  | .attr path => pure (.quoted (.attr path))
  | .backRef name => Run.backRef name (← Run.frames) shown
  | .pattern source flags =>
    match readPattern source flags with
    | .ok p => pure (.pattern p)
    | .error problem => Run.fail (.badText span problem)
  | .date text =>
    match readDate (← Run.env).now text with
    | .ok d => pure (.instant d)
    | .error problem => Run.fail (.badText span problem)
  | .openBracket | .openBrace | .closeBracket | .closeBrace => Run.fail (.unexpectedClose span)

/-- Evaluates a token outside of literals. -/
def runToken (runList : List Value → Run Flow) (t : Token) (span : Span) : Run Flow := do
  match t with
  | .word name => runName runList name
  | .ref name => runQuoted (runName runList) (.ref name)
  | .backRef name => runQuoted (runName runList) (.backRef name)
  | .escaped text => runQuoted (runName runList) (QuotedWord.ofText text)
  | .attr path => runQuoted (runName runList) (.attr path)
  | t => andNext do Run.push (← capture (← Run.items) t span)

/-- The map of keys and values that follow one another; a key that comes
again replaces the value. -/
def pairUp (fields : List (String × Value)) : List Value → Except Complaint (List (String × Value))
  | key :: v :: rest =>
    match key.name? with
    | some name => pairUp (Entries.insert name v fields) rest
    | none => .error (.badMapKey key.display)
  | _ => .ok fields

/-- The value of a literal that is closed. -/
def OpenLiteral.value (o : OpenLiteral) : Except Complaint Value :=
  match o.kind with
  | .list => .ok (.list o.items.reverse)
  | .map =>
    if o.items.length % 2 = 0 then (pairUp [] o.items.reverse).map .map
    else .error .unpairedMap

/-- The literal that a closing token closes. -/
def closes : Token → Option LiteralKind
  | .closeBracket => some .list
  | .closeBrace => some .map
  | _ => none

/-- The literal that an opening token opens. -/
def opens : Token → Option LiteralKind
  | .openBracket => some .list
  | .openBrace => some .map
  | _ => none

/-- Runs tokens with some literals open, the innermost first. An escape
outside of literals ends the program. -/
def runTokens (runList : List Value → Run Flow) : List OpenLiteral → List Lexeme → Run Unit
  | [], [] => pure ()
  | o :: _, [] => Run.fail (.unclosedScope o.span)
  | literals, ⟨t, span⟩ :: rest => fun env s =>
    match opens t, closes t, literals with
    | some kind, _, literals => runTokens runList ({ kind, span } :: literals) rest env s
    | none, some _, [] => (.error (.unexpectedClose span), s)
    | none, some kind, o :: outer =>
      if o.kind = kind then
        match outer, o.value with
        | [], .ok v => runTokens runList [] rest env { s with frame := { s.frame with items := v :: s.frame.items } }
        | p :: outer, .ok v => runTokens runList ({ p with items := v :: p.items } :: outer) rest env s
        | [], .error c => Run.complain "\x7d" c s.frame.items env s
        | p :: _, .error c => Run.complain "\x7d" c p.items env s
      else (.error (.unexpectedClose span), s)
    | none, none, [] =>
      match runToken runList t span env s with
      | (.ok .next, s) => runTokens runList [] rest env s
      | (.ok .escape, s) => (.ok (), s)
      | (.error e, s) => (.error e, s)
    | none, none, o :: outer =>
      match capture o.items t span env s with
      | (.ok v, s) => runTokens runList ({ o with items := v :: o.items } :: outer) rest env s
      | (.error e, s) => (.error e, s)

/-- Runs a program on the current frame. -/
def runSource (source : String) : Run Unit := do
  match Lexer.tokenize source with
  | .error refusal => Run.fail (.ofRefusal refusal)
  | .ok lexemes => runTokens (runList (← Run.env).limits.maxDepth) [] lexemes

end EntityBase.Machine
