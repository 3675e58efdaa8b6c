import EntityBase.Proofs.Machine.Dispatch
import EntityBase.Proofs.Machine.SteadyWords
import EntityBase.Proofs.Machine.Tokens

/-!
# Spreading a captured program — the two ways to evaluate agree

Tokens are evaluated as they come, or captured in a literal and evaluated as
values. `Captures` says which values a program is captured as: one for each
token outside of its own literals, and one for each literal. A program with
matching brackets that is captured at all is captured so, in whatever
literals it stands, and evaluating its tokens is evaluating these values
(`runTokens_of_captures`). What is left between a program and its spread
literal is the word that runs and one level of nesting, and on these a run
depends in its failures only.
-/

namespace EntityBase.Machine

section Captured

variable {runList : List Value → Run Flow} {env : Env} {s : State}

/-! ## One token -/

/-- The value that a token stands for in every literal. A back reference and a
bracket stand for none. -/
def standsFor? (now : Instant) : Token → Option Value
  | .int n => some (.int n)
  | .float x => some (.scalar (.float x))
  | .text s | .key s => some (.text s)
  | .bool b => some (.bool b)
  | .nil => some .nil
  | .word name => some (.quoted (.word name))
  | .ref name => some (.quoted (.ref name))
  | .escaped text => some (.quoted (QuotedWord.ofText text))
  | .attr path => some (.quoted (.attr path))
  | .pattern source flags => (readPattern source flags).toOption.map .pattern
  | .date text => (readDate now text).toOption.map .instant
  | .backRef _ | .openBracket | .closeBracket | .openBrace | .closeBrace => none

/-- A token that stands for a value is no bracket. -/
theorem no_bracket_of_standsFor? {now : Instant} {t : Token} {v : Value}
    (h : standsFor? now t = some v) : opens t = none ∧ closes t = none := by
  cases t <;> first | exact ⟨rfl, rfl⟩ | cases h

/-- Capturing a token that does not look back leaves the state alone and gives
what the token stands for, if anything. -/
theorem capture_cases (env : Env) (s : State) {t : Token} (shown : List Value) (span : Span)
    (hback : ∀ name, t ≠ .backRef name) :
    (∃ v, standsFor? env.now t = some v ∧ capture shown t span env s = (.ok v, s)) ∨
      (standsFor? env.now t = none ∧ ∃ e, capture shown t span env s = (.error e, s)) := by
  cases t with
  | backRef name => exact absurd rfl (hback name)
  | pattern source flags =>
    simp only [standsFor?, capture]
    cases readPattern source flags with
    | error problem => exact Or.inr ⟨rfl, _, rfl⟩
    | ok p => exact Or.inl ⟨_, rfl, rfl⟩
  | date text =>
    simp only [standsFor?, capture]
    change (∃ v, _ ∧ Run.bind Run.env _ env s = _) ∨ (_ ∧ ∃ e, Run.bind Run.env _ env s = _)
    dsimp only [Run.bind, Run.env]
    cases readDate env.now text with
    | error problem => exact Or.inr ⟨rfl, _, rfl⟩
    | ok d => exact Or.inl ⟨_, rfl, rfl⟩
  | openBracket | closeBracket | openBrace | closeBrace => exact Or.inr ⟨rfl, _, rfl⟩
  | _ => exact Or.inl ⟨_, rfl, rfl⟩

theorem capture_eq {t : Token} {v : Value} (shown : List Value) (span : Span)
    (h : standsFor? env.now t = some v) : capture shown t span env s = (.ok v, s) := by
  have hback : ∀ name, t ≠ .backRef name := by
    rintro name rfl
    cases h
  rcases capture_cases env s shown span hback with ⟨w, hw, hcapture⟩ | ⟨hnone, -⟩
  · obtain rfl := Option.some.inj (h.symm.trans hw)
    exact hcapture
  · rw [hnone] at h
    cases h

/-- Evaluating a token is evaluating the value that it stands for. -/
theorem runToken_eq {t : Token} {v : Value} (span : Span) (h : standsFor? env.now t = some v) :
    runToken runList t span env s = runValue runList v env s := by
  have hcapture := capture_eq (s := s) s.frame.items span h
  have hpushed : Run.bind (Run.bind (capture s.frame.items t span) Run.push)
      (fun _ => Run.pure Flow.next) env s = andNext (Run.push v) env s := by
    unfold Run.bind
    rw [hcapture]
    rfl
  -- words and references run as they do quoted, and all else is pushed
  cases t with
  | backRef name => cases h
  | word name | ref name | escaped text | attr path =>
    obtain rfl := Option.some.inj h
    rfl
  | openBracket | closeBracket | openBrace | closeBrace => cases h
  | pattern source flags =>
    obtain ⟨p, -, rfl⟩ := Option.map_eq_some_iff.1 h
    exact hpushed
  | date text =>
    obtain ⟨d, -, rfl⟩ := Option.map_eq_some_iff.1 h
    exact hpushed
  | _ =>
    obtain rfl := Option.some.inj h
    exact hpushed

/-! ## Whole programs -/

variable {t : Token} {span : Span} {literals outer : List OpenLiteral} {o : OpenLiteral}
  {rest : List Lexeme}

/-- Tokens in which every bracket is matched. -/
inductive Balanced : List Token → Prop
  | nil : Balanced []
  | token {t : Token} {rest : List Token} :
    opens t = none → closes t = none → Balanced rest → Balanced (t :: rest)
  | literal {t u : Token} {kind : LiteralKind} {inner rest : List Token} :
    opens t = some kind → closes u = some kind → Balanced inner → Balanced rest →
      Balanced (t :: (inner ++ u :: rest))

/-- The values as which tokens are captured at a moment. -/
inductive Captures (now : Instant) : List Token → List Value → Prop
  | nil : Captures now [] []
  | token {t : Token} {v : Value} {rest : List Token} {values : List Value} :
    standsFor? now t = some v → Captures now rest values → Captures now (t :: rest) (v :: values)
  | literal {t u : Token} {kind : LiteralKind} {inner rest : List Token}
      {items values : List Value} {v : Value} :
    opens t = some kind → closes u = some kind → Captures now inner items →
      (∀ span, OpenLiteral.value ⟨kind, span, items.reverse⟩ = .ok v) →
      Captures now rest values → Captures now (t :: (inner ++ u :: rest)) (v :: values)

/-- **Inside a literal** the tokens leave the values that they are captured as. -/
theorem runTokens_in_literal {tokens : List Token} {values : List Value}
    (h : Captures env.now tokens values) (program : List Lexeme)
    (hprogram : program.map (·.token) = tokens) (o : OpenLiteral) (outer : List OpenLiteral)
    (rest : List Lexeme) (s : State) :
    runTokens runList (o :: outer) (program ++ rest) env s
      = runTokens runList ({ o with items := values.reverse ++ o.items } :: outer) rest env s := by
  induction h generalizing program o outer rest with
  | nil =>
    obtain rfl := List.map_eq_nil_iff.1 hprogram
    rfl
  | token hv _ ih =>
    obtain ⟨⟨t, span⟩, program', rfl, rfl, hrest⟩ := List.map_eq_cons_iff.1 hprogram
    obtain ⟨hopen, hclose⟩ := no_bracket_of_standsFor? hv
    rw [List.cons_append, runTokens_inside hopen hclose, capture_eq _ _ hv]
    dsimp only
    rw [ih _ hrest]
    simp
  | literal hopen hclose _ hvalue _ ihinner ihrest =>
    -- the inner literal opens on top of this one and closes to its value
    obtain ⟨⟨t, span⟩, program', rfl, rfl, htail⟩ := List.map_eq_cons_iff.1 hprogram
    obtain ⟨inner, tail, rfl, hinner, htail⟩ := List.map_eq_append_iff.1 htail
    obtain ⟨⟨u, span'⟩, program', rfl, rfl, hrest⟩ := List.map_eq_cons_iff.1 htail
    rw [List.cons_append, runTokens_open hopen, List.append_assoc, ihinner _ hinner,
      List.cons_append, List.append_nil, runTokens_close (o := ⟨_, span, _⟩) hclose, hvalue span]
    dsimp only
    rw [ihrest _ hrest]
    simp

/-- Evaluating the value of a literal pushes it. -/
theorem runValue_of_literal {v : Value} (h : o.value = .ok v) :
    runValue runList v env s
      = (.ok .next, { s with frame := { s.frame with items := v :: s.frame.items } }) := by
  unfold OpenLiteral.value at h
  split at h
  · obtain rfl := Except.ok.inj h
    rfl
  · split at h
    · cases hpairs : pairUp [] o.items.reverse with
      | error c =>
        rw [hpairs] at h
        cases h
      | ok fields =>
        rw [hpairs] at h
        obtain rfl := Except.ok.inj h
        rfl
    · cases h

theorem runValues_cons (v : Value) (values : List Value) :
    runValues runList (v :: values) env s
      = match runValue runList v env s with
        | (.ok .next, s) => runValues runList values env s
        | r => r := rfl

/-- What a run of a list comes to for a program: an escape ends it. -/
def finished (r : Except Failure Flow × State) : Except Failure Unit × State :=
  (r.1.map fun _ => (), r.2)

/-- **Outside of literals** evaluating the tokens is evaluating the values that
they are captured as. -/
theorem runTokens_of_captures {tokens : List Token} {values : List Value}
    (h : Captures env.now tokens values) (program : List Lexeme)
    (hprogram : program.map (·.token) = tokens) (s : State) :
    runTokens runList [] program env s = finished (runValues runList values env s) := by
  induction h generalizing program s with
  | nil =>
    obtain rfl := List.map_eq_nil_iff.1 hprogram
    rfl
  | token hv _ ih =>
    obtain ⟨⟨t, span⟩, program', rfl, rfl, hrest⟩ := List.map_eq_cons_iff.1 hprogram
    obtain ⟨hopen, hclose⟩ := no_bracket_of_standsFor? hv
    rw [runTokens_outside hopen hclose, runToken_eq span hv, runValues_cons]
    rcases runValue runList _ env s with ⟨e | _ | _, s'⟩
    · rfl
    · exact ih _ hrest s'
    · rfl
  | literal hopen hclose hitems hvalue _ _ ihrest =>
    obtain ⟨⟨t, span⟩, program', rfl, rfl, htail⟩ := List.map_eq_cons_iff.1 hprogram
    obtain ⟨inner, tail, rfl, hinner, htail⟩ := List.map_eq_append_iff.1 htail
    obtain ⟨⟨u, span'⟩, program', rfl, rfl, hrest⟩ := List.map_eq_cons_iff.1 htail
    -- a literal at top level closes to its value, which is pushed as it would run
    rw [runTokens_open hopen, runTokens_in_literal hitems _ hinner, List.append_nil,
      runTokens_close (o := ⟨_, span, _⟩) hclose, hvalue span, runValues_cons,
      runValue_of_literal (hvalue span)]
    exact ihrest _ hrest _

/-- **A balanced program that some literal captures** is captured as values. -/
theorem captures_of_balanced {tokens : List Token} (hbalanced : Balanced tokens)
    (hback : ∀ t ∈ tokens, ∀ name, t ≠ .backRef name) (program : List Lexeme)
    (hprogram : program.map (·.token) = tokens) (o : OpenLiteral) (outer : List OpenLiteral)
    (rest : List Lexeme)
    (h : (runTokens runList (o :: outer) (program ++ rest) env s).1 = .ok ()) :
    ∃ values, Captures env.now tokens values := by
  -- on the shape of the program: what was captured before does not matter, and a
  -- run that succeeds has got past each part
  induction hbalanced generalizing program o outer rest with
  | nil => exact ⟨[], .nil⟩
  | @token t _ hopen hclose _ ih =>
    obtain ⟨⟨t, span⟩, program', rfl, rfl, hrest⟩ := List.map_eq_cons_iff.1 hprogram
    have hthis := hback t (List.mem_cons_self ..)
    rw [List.cons_append, runTokens_inside hopen hclose] at h
    rcases capture_cases env s o.items span hthis with ⟨v, hv, hcapture⟩ |
      ⟨-, e, hcapture⟩
    · rw [hcapture] at h
      obtain ⟨values, hvalues⟩ := ih (fun u hu => hback u (List.mem_cons_of_mem _ hu)) _ hrest
        _ _ _ h
      exact ⟨v :: values, .token hv hvalues⟩
    · rw [hcapture] at h
      cases h
  | @literal t u kind inner rest' hopen hclose _ _ ihinner ihrest =>
    have hbackInner : ∀ t ∈ inner, ∀ name, t ≠ .backRef name := fun t ht => hback t (by simp [ht])
    have hbackRest : ∀ t ∈ rest', ∀ name, t ≠ .backRef name := fun t ht => hback t (by simp [ht])
    obtain ⟨⟨t, span⟩, program', rfl, rfl, htail⟩ := List.map_eq_cons_iff.1 hprogram
    obtain ⟨inside, tail, rfl, hinner, htail⟩ := List.map_eq_append_iff.1 htail
    obtain ⟨⟨u, span'⟩, program', rfl, rfl, hrest⟩ := List.map_eq_cons_iff.1 htail
    rw [List.cons_append, runTokens_open hopen, List.append_assoc] at h
    obtain ⟨items, hitems⟩ := ihinner hbackInner inside hinner _ _ _ h
    -- the inner tokens are captured, so the run goes on to the closing bracket
    rw [runTokens_in_literal hitems _ hinner, List.cons_append, List.append_nil,
      runTokens_close (o := ⟨_, span, _⟩) hclose] at h
    cases hvalue : OpenLiteral.value ⟨kind, span, items.reverse⟩ with
    | error c =>
      rw [hvalue] at h
      cases h
    | ok v =>
      rw [hvalue] at h
      obtain ⟨values, hvalues⟩ := ihrest hbackRest program' hrest _ _ _ h
      exact ⟨v :: values, .literal hopen hclose hitems (fun _ => hvalue) hvalues⟩

/-! ## Programs and their spread literals -/

/-- Where no word of a program is named `spread`, the name runs the list on
top. -/
theorem runName_spread {values below : List Value} (hitems : s.frame.items = .list values :: below)
    (houter : env.outer = []) (hspread : s.frame.words.named "spread" = []) :
    runName runList "spread" env s
      = runList values { env with word := "spread" }
          { s with frame := { s.frame with items := below } } := by
  have hfind : (overloads "spread" (s.frame :: env.outer)).find? (fun w => w.accepts s.frame.items)
      = some ⟨[.list], .native (.control .spread)⟩ := by
    rw [overloads_of_unnamed houter hspread, hitems]
    rfl
  rw [runName_native (by decide) hfind]
  obtain ⟨⟨items, words⟩, store, selection, journal⟩ := s
  obtain rfl : items = .list values :: below := hitems
  rfl

end Captured

/-- The surroundings with one more level of nesting. -/
def Env.deeper (env : Env) : Env :=
  { env with limits := { env.limits with maxDepth := env.limits.maxDepth + 1 } }

/-- **Evaluating tokens and spreading a captured list agree.** Take a machine at
top level on which no word is named `spread`, and a program without back
references whose brackets match and whose list literal is captured without
failure. Running the program, and running its literal and `spread` with one more
level of nesting, both succeed or both fail with a failure of the same kind, and
leave the same state. -/
theorem spread_agrees {program copy : List Lexeme} (env : Env) (s : State)
    (openAt closeAt spreadAt : Span) (htop : env.outer = [])
    (hspread : s.frame.words.named "spread" = [])
    (hcopy : copy.map (·.token) = program.map (·.token))
    (hback : ∀ l ∈ program, ∀ name, l.token ≠ .backRef name)
    (hbalanced : Balanced (program.map (·.token)))
    (hcaptured : (runTokens (runList env.limits.maxDepth) []
      (⟨.openBracket, openAt⟩ :: (program ++ [⟨.closeBracket, closeAt⟩])) env s).1 = .ok ()) :
    Agree (runTokens (runList env.limits.maxDepth) [] program env s)
      (runTokens (runList env.deeper.limits.maxDepth) []
        (⟨.openBracket, openAt⟩ :: (copy ++ [⟨.closeBracket, closeAt⟩, ⟨.word "spread", spreadAt⟩]))
        env.deeper s) := by
  rw [runTokens_open rfl] at hcaptured
  obtain ⟨values, hvalues⟩ := captures_of_balanced hbalanced
    (fun t ht => by
      obtain ⟨l, hl, rfl⟩ := List.mem_map.1 ht
      exact hback l hl)
    program rfl _ _ _ hcaptured
  have hvalues' : Captures env.deeper.now (program.map (·.token)) values := hvalues
  have hvalue : OpenLiteral.value ⟨.list, openAt, values.reverse ++ []⟩ = .ok (.list values) := by
    simp [OpenLiteral.value]
  have hrun : runToken (runList env.deeper.limits.maxDepth) (.word "spread") spreadAt env.deeper
      { s with frame := { s.frame with items := .list values :: s.frame.items } }
      = runValues (runList env.limits.maxDepth) values
          (env.shifted "spread" (env.limits.maxDepth + 1)) s :=
    runName_spread rfl htop hspread
  -- on both sides the values that the program is captured as are run
  rw [runTokens_of_captures hvalues program rfl, runTokens_open rfl,
    runTokens_in_literal hvalues' copy hcopy, runTokens_close rfl, hvalue]
  dsimp only
  rw [runTokens_outside rfl rfl, hrun]
  -- what runs the values now is the word `spread` under the higher ceiling
  have hsteady := steady_runValues (steady_runList env.limits.maxDepth) values env "spread"
    (env.limits.maxDepth + 1) s
  refine hsteady.elim (fun flow t => ?_) fun _ _ t hsort => Agree.error t hsort
  cases flow with
  | next => exact Agree.refl _
  | escape => exact Agree.refl _

/-- `3 [ 4 break ] spread 5` leaves `3` and `4`, and so does its literal when it is
spread. -/
theorem spread_agrees_up_to_break :
    let at0 : Span := ⟨0, 0⟩
    let program : List Lexeme := [⟨.int 3, at0⟩, ⟨.openBracket, at0⟩, ⟨.int 4, at0⟩,
      ⟨.word "break", at0⟩, ⟨.closeBracket, at0⟩, ⟨.word "spread", at0⟩, ⟨.int 5, at0⟩]
    let env : Env := { limits := { maxDepth := 1 }, now := ⟨2024, 1, 1, 0, 0, 0, 0⟩ }
    Agree (runTokens (runList 1) [] program env {})
        (runTokens (runList 2) [] (⟨.openBracket, at0⟩ ::
          (program ++ [⟨.closeBracket, at0⟩, ⟨.word "spread", at0⟩])) env.deeper {}) ∧
      (runTokens (runList 1) [] program env {}).2.frame.items = [.int 4, .int 3] := by
  intro at0 program env
  have hbalanced : Balanced (program.map (·.token)) :=
    .token rfl rfl (@Balanced.literal .openBracket .closeBracket .list [.int 4, .word "break"]
      [.word "spread", .int 5] rfl rfl (.token rfl rfl (.token rfl rfl .nil))
      (.token rfl rfl (.token rfl rfl .nil)))
  have hback : ∀ l ∈ program, ∀ name, l.token ≠ .backRef name := by
    simp [program]
  exact ⟨spread_agrees env {} at0 at0 at0 rfl rfl rfl hback hbalanced rfl, rfl⟩

end EntityBase.Machine
