import EntityBase.Machine.Program

/-!
# Tokens — one step of a program

An opening bracket opens a literal and a closing one closes the innermost, if it
is of its kind. Any other token is captured inside a literal and evaluated
outside of literals.
-/

namespace EntityBase.Machine

variable {runList : List Value → Run Flow} {env : Env} {s : State} {t : Token} {span : Span}
  {literals outer : List OpenLiteral} {o : OpenLiteral} {rest : List Lexeme}

/-- Capturing a token changes nothing. -/
theorem capture_state (shown : List Value) (t : Token) (span : Span) (env : Env) (s : State) :
    (capture shown t span env s).2 = s := by
  cases t with
  | backRef name =>
    change (Run.backRef name (s.frame :: env.outer) shown env s).2 = s
    unfold Run.backRef Run.binding
    cases position? name.toList with
    | none => cases bindingIn? name (s.frame :: env.outer) <;> rfl
    | some n =>
      dsimp only
      cases (s.frame :: env.outer).head?.bind fun f => f.items[n]? <;> rfl
  | pattern source flags =>
    simp only [capture]
    cases readPattern source flags <;> rfl
  | date text =>
    change (Run.bind Run.env _ env s).2 = s
    dsimp only [Run.bind, Run.env]
    cases readDate env.now text <;> rfl
  | _ => rfl

theorem runTokens_open {kind : LiteralKind} (h : opens t = some kind) :
    runTokens runList literals (⟨t, span⟩ :: rest) env s
      = runTokens runList ({ kind, span } :: literals) rest env s := by
  cases literals <;> cases t <;> cases h <;> rfl

/-- Closing the innermost literal. -/
theorem runTokens_close (hclose : closes t = some o.kind) :
    runTokens runList (o :: outer) (⟨t, span⟩ :: rest) env s
      = match outer, o.value with
        | [], .ok v => runTokens runList [] rest env
            { s with frame := { s.frame with items := v :: s.frame.items } }
        | p :: outer, .ok v =>
          runTokens runList ({ p with items := v :: p.items } :: outer) rest env s
        | [], .error c => Run.complain "\x7d" c s.frame.items env s
        | p :: _, .error c => Run.complain "\x7d" c p.items env s := by
  obtain ⟨kind, opened, items⟩ := o
  cases t <;> cases hclose <;> rfl

/-- Inside a literal a token is captured. -/
theorem runTokens_inside (hopen : opens t = none) (hclose : closes t = none) :
    runTokens runList (o :: outer) (⟨t, span⟩ :: rest) env s
      = match capture o.items t span env s with
        | (.ok v, s) => runTokens runList ({ o with items := v :: o.items } :: outer) rest env s
        | (.error e, s) => (.error e, s) := by
  cases t with
  | openBracket | openBrace => cases hopen
  | closeBracket | closeBrace => cases hclose
  | _ => rfl

/-- Outside of literals a token is evaluated. -/
theorem runTokens_outside (hopen : opens t = none) (hclose : closes t = none) :
    runTokens runList [] (⟨t, span⟩ :: rest) env s
      = match runToken runList t span env s with
        | (.ok .next, s) => runTokens runList [] rest env s
        | (.ok .escape, s) => (.ok (), s)
        | (.error e, s) => (.error e, s) := by
  cases t with
  | openBracket | openBrace => cases hopen
  | closeBracket | closeBrace => cases hclose
  | _ => rfl

/-- A closing bracket without an innermost literal of its kind. -/
theorem runTokens_close_ne {kind : LiteralKind} (hclose : closes t = some kind)
    (hkind : ∀ o ∈ literals.head?, o.kind ≠ kind) :
    runTokens runList literals (⟨t, span⟩ :: rest) env s = (.error (.unexpectedClose span), s) := by
  cases literals with
  | nil => cases t <;> cases hclose <;> rfl
  | cons o outer =>
    have hne : o.kind ≠ kind := hkind o rfl
    cases t <;> cases hclose
    · exact if_neg hne
    · exact if_neg hne

/-- The innermost literal is of a kind, or none is there to be closed by it. -/
theorem innermost_cases (literals : List OpenLiteral) (kind : LiteralKind) :
    (∀ o ∈ literals.head?, o.kind ≠ kind) ∨
      ∃ o outer, literals = o :: outer ∧ o.kind = kind := by
  cases literals with
  | nil => exact .inl nofun
  | cons o outer =>
    by_cases hkind : o.kind = kind
    · exact .inr ⟨o, outer, rfl, hkind⟩
    · refine .inl fun o' ho' => ?_
      obtain rfl := Option.some.inj ho'
      exact hkind

end EntityBase.Machine
