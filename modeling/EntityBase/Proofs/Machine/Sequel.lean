import EntityBase.Proofs.Machine.Arena.Program
import EntityBase.Proofs.Machine.Steady
import EntityBase.Proofs.Token.Sequel

/-!
# One program after another — two runs are one

Tokens run one at a time, and nothing is carried from one to the next but the state
and the literals that are open. So where a program runs to its end, whatever tokens
stand behind it run as they do from the state that it left, on a frame
(`runTokens_append`) and on an arena (`runProgram_append`). Only a break outside of
literals, with which a program ends well before its end, is in the way: after it
the tokens of the second program would be skipped too.

Where a token stands in the source words the failures about the text and nothing else
(`agree_runTokens`). And the tokens of two texts with a line end between them are
those of both (`Lexer.tokenize_newline`). So a session of runs comes to the same as
one program.
-/

namespace EntityBase.Machine

section Tokens

variable {α β : Type} {runList : List Value → Run Flow} {env : Env} {s s' : State} {t : Token}
  {span : Span} {literals outer : List OpenLiteral} {o : OpenLiteral}
  {program more rest : List Lexeme}

/-! ## Where a token stands -/

/-- The literal, opened so many bytes further on. -/
def OpenLiteral.shift (k : Nat) (o : OpenLiteral) : OpenLiteral := { o with span := o.span.shift k }

/-- The same run after first runs that agree. -/
theorem Agree.bind {m m' : Run α} (h : Agree (m env s) (m' env s)) (f : α → Run β) :
    Agree ((m >>= f) env s) ((m' >>= f) env s) := by
  change Agree (Run.bind m f env s) (Run.bind m' f env s)
  unfold Run.bind
  exact h.elim (fun _ _ => Agree.refl _) fun _ _ s hsort => Agree.error s hsort

theorem agree_capture (shown : List Value) (t : Token) (span span' : Span) (env : Env)
    (s : State) : Agree (capture shown t span env s) (capture shown t span' env s) := by
  cases t with
  | pattern source flags =>
    simp only [capture]
    cases readPattern source flags with
    | ok p => exact Agree.refl _
    | error problem => exact Agree.error s rfl
  | date text =>
    change Agree (Run.bind Run.env _ env s) (Run.bind Run.env _ env s)
    dsimp only [Run.bind, Run.env]
    cases readDate env.now text with
    | ok d => exact Agree.refl _
    | error problem => exact Agree.error s rfl
  | openBracket | openBrace | closeBracket | closeBrace => exact Agree.error s rfl
  | _ => exact Agree.refl _

theorem agree_runToken (t : Token) (span span' : Span) (env : Env) (s : State) :
    Agree (runToken runList t span env s) (runToken runList t span' env s) := by
  have hpushed : Agree
      (andNext (Run.items >>= fun items => capture items t span >>= Run.push) env s)
      (andNext (Run.items >>= fun items => capture items t span' >>= Run.push) env s) := by
    refine Agree.bind ?_ _
    change Agree ((capture s.frame.items t span >>= Run.push) env s)
      ((capture s.frame.items t span' >>= Run.push) env s)
    exact (agree_capture s.frame.items t span span' env s).bind Run.push
  cases t with
  | word | ref | backRef | escaped | attr => exact Agree.refl _
  | _ => exact hpushed

/-- A closing bracket of the right kind, whatever comes behind it. -/
theorem agree_close {k : Nat} (hclose : closes t = some o.kind)
    (hrest : ∀ literals s, Agree (runTokens runList literals rest env s)
      (runTokens runList (literals.map (OpenLiteral.shift k)) (rest.map (Lexeme.shift k)) env s)) :
    Agree (runTokens runList (o :: outer) (⟨t, span⟩ :: rest) env s)
      (runTokens runList (o.shift k :: outer.map (OpenLiteral.shift k))
        (⟨t, span.shift k⟩ :: rest.map (Lexeme.shift k)) env s) := by
  have hvalue : (o.shift k).value = o.value := rfl
  rw [runTokens_close hclose, runTokens_close (o := o.shift k) hclose, hvalue]
  cases outer with
  | nil =>
    cases o.value with
    | ok v => exact hrest [] _
    | error c => exact Agree.refl _
  | cons p outer =>
    cases o.value with
    | ok v => exact hrest ({ p with items := v :: p.items } :: outer) s
    | error c => exact Agree.refl _

/-- **Where tokens stand** changes failures only, and not their kind. The induction is
on the tokens, with the literals that are open further on as well. -/
theorem agree_runTokens (k : Nat) (literals : List OpenLiteral) (program : List Lexeme)
    (env : Env) (s : State) :
    Agree (runTokens runList literals program env s)
      (runTokens runList (literals.map (OpenLiteral.shift k)) (program.map (Lexeme.shift k))
        env s) := by
  induction program generalizing literals s with
  | nil =>
    cases literals with
    | nil => exact Agree.refl _
    | cons o outer => exact Agree.error s rfl
  | cons lexeme rest ih =>
    obtain ⟨t, span⟩ := lexeme
    change Agree _ (runTokens runList _ (⟨t, span.shift k⟩ :: rest.map (Lexeme.shift k)) env s)
    cases hopen : opens t with
    | some kind =>
      rw [runTokens_open hopen, runTokens_open hopen]
      exact ih ({ kind, span } :: literals) s
    | none =>
      cases hclose : closes t with
      | some kind =>
        rcases innermost_cases literals kind with hkind | ⟨o, outer, rfl, rfl⟩
        · have hkind' : ∀ o ∈ (literals.map (OpenLiteral.shift k)).head?, o.kind ≠ kind := by
            rw [List.head?_map]
            rintro o' ho'
            obtain ⟨o, ho, rfl⟩ := Option.map_eq_some_iff.mp ho'
            exact hkind o ho
          rw [runTokens_close_ne hclose hkind, runTokens_close_ne hclose hkind']
          exact Agree.error s rfl
        · exact agree_close hclose fun literals s => ih literals s
      | none =>
        cases literals with
        | nil =>
          rw [List.map_nil, runTokens_outside hopen hclose, runTokens_outside hopen hclose]
          refine (agree_runToken t span (span.shift k) env s).elim (fun flow s => ?_)
            fun e f s hsort => Agree.error s hsort
          cases flow with
          | next => exact ih [] s
          | escape => exact Agree.refl _
        | cons o outer =>
          rw [List.map_cons, runTokens_inside hopen hclose, runTokens_inside hopen hclose]
          exact (agree_capture o.items t span (span.shift k) env s).elim
            (fun v s => ih ({ o with items := v :: o.items } :: outer) s)
            fun e f s hsort => Agree.error s hsort

/-! ## One token and what stands behind it -/

/-- **The three ways of a token**, whatever stands behind it: the run goes on behind it,
or a break outside of literals ends it, or it fails. -/
inductive Passes (runList : List Value → Run Flow) (literals : List OpenLiteral) (t : Token)
    (span : Span) (env : Env) (s : State) : Prop
  | on (literals' : List OpenLiteral) (s' : State) :
    (∀ rest, runTokens runList literals (⟨t, span⟩ :: rest) env s
      = runTokens runList literals' rest env s') → Passes runList literals t span env s
  | broken : literals = [] → opens t = none → closes t = none →
    (runToken runList t span env s).1 = .ok .escape → Passes runList literals t span env s
  | failed (e : Failure) (s' : State) :
    (∀ rest, runTokens runList literals (⟨t, span⟩ :: rest) env s = (.error e, s')) →
    Passes runList literals t span env s

theorem passes_close (hclose : closes t = some o.kind) :
    Passes runList (o :: outer) t span env s := by
  cases hvalue : o.value with
  | ok v =>
    cases outer with
    | nil =>
      refine .on [] { s with frame := { s.frame with items := v :: s.frame.items } } fun rest => ?_
      rw [runTokens_close hclose, hvalue]
    | cons p outer =>
      refine .on ({ p with items := v :: p.items } :: outer) s fun rest => ?_
      rw [runTokens_close hclose, hvalue]
  | error c =>
    cases outer with
    | nil =>
      refine .failed (.invalidArguments "\x7d" c (snapshot env.limits s.frame.items)) s
        fun rest => ?_
      rw [runTokens_close hclose, hvalue]
      rfl
    | cons p outer =>
      refine .failed (.invalidArguments "\x7d" c (snapshot env.limits p.items)) s fun rest => ?_
      rw [runTokens_close hclose, hvalue]
      rfl

theorem passes_inside (hopen : opens t = none) (hclose : closes t = none) :
    Passes runList (o :: outer) t span env s := by
  rcases hrun : capture o.items t span env s with ⟨e | v, s'⟩
  · refine .failed e s' fun rest => ?_
    rw [runTokens_inside hopen hclose, hrun]
  · refine .on ({ o with items := v :: o.items } :: outer) s' fun rest => ?_
    rw [runTokens_inside hopen hclose, hrun]

theorem passes_outside (hopen : opens t = none) (hclose : closes t = none) :
    Passes runList [] t span env s := by
  rcases hrun : runToken runList t span env s with ⟨e | flow, s'⟩
  · refine .failed e s' fun rest => ?_
    rw [runTokens_outside hopen hclose, hrun]
  · cases flow with
    | escape => exact .broken rfl hopen hclose (congrArg Prod.fst hrun)
    | next =>
      refine .on [] s' fun rest => ?_
      rw [runTokens_outside hopen hclose, hrun]

theorem passes (runList : List Value → Run Flow) (literals : List OpenLiteral) (t : Token)
    (span : Span) (env : Env) (s : State) : Passes runList literals t span env s := by
  cases hopen : opens t with
  | some kind => exact .on ({ kind, span } :: literals) s fun rest => runTokens_open hopen
  | none =>
    cases hclose : closes t with
    | some kind =>
      rcases innermost_cases literals kind with hkind | ⟨o, outer, rfl, rfl⟩
      · exact .failed (.unexpectedClose span) s fun rest => runTokens_close_ne hclose hkind
      · exact passes_close hclose
    | none =>
      cases literals with
      | nil => exact passes_outside hopen hclose
      | cons o outer => exact passes_inside hopen hclose

/-! ## Tokens behind tokens -/

/-- **Tokens that run to their end** leave to those behind them nothing but the state,
unless one of them breaks the run outside of literals. -/
theorem runTokens_append {literals : List OpenLiteral}
    (hrun : runTokens runList literals program env s = (.ok (), s'))
    (hwhole : ∀ before t span rest s₁, program = before ++ ⟨t, span⟩ :: rest →
      runTokens runList literals before env s = (.ok (), s₁) → opens t = none → closes t = none →
      (runToken runList t span env s₁).1 ≠ .ok .escape) (more : List Lexeme) :
    runTokens runList literals (program ++ more) env s = runTokens runList [] more env s' := by
  induction program generalizing literals s with
  | nil =>
    cases literals with
    | nil =>
      obtain rfl : s = s' := congrArg Prod.snd hrun
      rfl
    | cons o outer => cases hrun
  | cons lexeme rest ih =>
    obtain ⟨t, span⟩ := lexeme
    rw [List.cons_append]
    cases passes runList literals t span env s with
    | on literals₁ s₁ hon =>
      rw [hon] at hrun ⊢
      refine ih hrun fun before u span' rest' s₂ hsplit hbefore => ?_
      refine hwhole (⟨t, span⟩ :: before) u span' rest' s₂ ?_ ?_
      · rw [hsplit, List.cons_append]
      · rw [hon, hbefore]
    | broken hliterals hopen hclose hescape =>
      subst hliterals
      exact (hwhole [] t span rest s rfl rfl hopen hclose hescape).elim
    | failed e s₁ hfailed =>
      rw [hfailed] at hrun
      cases hrun

end Tokens

/-! ## Programs on an arena -/

theorem Agree.mapError {α : Type} {r r' : Except Failure α × State} (h : Agree r r') :
    r.1.mapError Failure.sort = r'.1.mapError Failure.sort :=
  h.elim (fun _ _ => rfl) fun _ _ _ hsort => congrArg Except.error hsort

namespace Arena

open Work (FollowsAt)

variable {terms : Terms} {a a' : Arena} {program : List Lexeme}

/-- Whether a break outside of literals cuts a program short: a token of it escapes
where the tokens before it have run to their end. -/
def CutShort (terms : Terms) (a : Arena) (program : List Lexeme) : Prop :=
  ∃ before t span rest a₁, program = before ++ ⟨t, span⟩ :: rest ∧
    runProgram before terms a = (.ok (), a₁) ∧ opens t = none ∧ closes t = none ∧
    (evalToken (invoke (evalList terms.limits.maxDepth)) t span terms a₁).1 = .ok .escape

/-- A program none of whose tokens escapes, each after those before it, is not cut
short. -/
theorem not_cutShort (h : ∀ i : Fin program.length,
    (evalToken (invoke (evalList terms.limits.maxDepth)) (program.get i).token (program.get i).span
      terms (runProgram (program.take i) terms a).2).1.toOption ≠ some .escape) :
    ¬ CutShort terms a program := by
  rintro ⟨before, t, span, rest, a₁, rfl, hbefore, -, -, hescape⟩
  refine h ⟨before.length, by simp⟩ ?_
  have htoken : (before ++ ⟨t, span⟩ :: rest).get ⟨before.length, by simp⟩ = ⟨t, span⟩ := by
    simp
  have htake : (before ++ ⟨t, span⟩ :: rest).take before.length = before := by simp
  simp only [htoken, htake, hbefore, hescape]
  rfl

/-- A run without options is the run of the tokens. -/
theorem runWith_default {source : String} (hsource : Lexer.tokenize source = .ok program) :
    runWith {} source terms a = runProgram program terms a := by
  have hprepared : a.setFrame { a.frame with items := [] ++ a.frame.items } = a :=
    setFrame_frame a
  unfold runWith
  rw [hsource]
  exact congrArg (runProgram program terms) hprepared

/-- What is not cut short on an arena has no token that breaks the run on its frame. -/
theorem not_escape_of_not_cutShort (h : a.AtTop) (hwhole : ¬ CutShort terms a program)
    {before rest : List Lexeme} {t : Token} {span : Span} {s₁ : State}
    (hsplit : program = before ++ ⟨t, span⟩ :: rest)
    (hbefore : Machine.runTokens (runList (terms.limits.maxDepth - a.depth)) [] before
      (a.env terms) a.state = (.ok (), s₁)) (hopen : opens t = none) (hclose : closes t = none) :
    (runToken (runList (terms.limits.maxDepth - a.depth)) t span (a.env terms) s₁).1
      ≠ .ok .escape := by
  intro hescape
  obtain ⟨hfits, houtcome⟩ : FollowsAt terms a (runProgram before) _ :=
    followsAt_runProgram h before
  rw [hbefore] at hfits houtcome
  have htoken : FollowsAt terms (a.put s₁)
      (evalToken (invoke (evalList terms.limits.maxDepth)) t span)
      (runToken (runList (terms.limits.maxDepth - a.depth)) t span) :=
    followsAt_evalToken (follows_evalList_left terms a) (h.put s₁) rfl t span
  refine hwhole ⟨before, t, span, rest, a.put s₁, hsplit, houtcome, hopen, hclose, ?_⟩
  rw [htoken.outcome, env_put, state_put h.lt hfits]
  exact hescape

/-- **Tokens behind a program that runs to its end** run on the arena that it leaves. -/
theorem runProgram_append (h : a.AtTop) (hrun : runProgram program terms a = (.ok (), a'))
    (hwhole : ¬ CutShort terms a program) (more : List Lexeme) :
    a'.AtTop ∧ runProgram (program ++ more) terms a = runProgram more terms a' := by
  rcases hframe : Machine.runTokens (runList (terms.limits.maxDepth - a.depth)) [] program
    (a.env terms) a.state with ⟨r, s'⟩
  obtain ⟨hfits, houtcome⟩ : FollowsAt terms a (runProgram program) _ :=
    followsAt_runProgram h program
  rw [hframe] at hfits houtcome
  rw [hrun] at houtcome
  obtain ⟨rfl, rfl⟩ := Prod.mk.inj houtcome
  have happend := runTokens_append hframe
    (fun before t span rest s₁ => not_escape_of_not_cutShort h hwhole) more
  have hjoined : runProgram (program ++ more) terms a = _ :=
    (followsAt_runProgram h (program ++ more)).outcome
  have hsecond : runProgram more terms (a.put s') = _ :=
    (followsAt_runProgram (h.put s') more).outcome
  rw [env_put, state_put h.lt hfits, put_put hfits] at hsecond
  refine ⟨h.put s', ?_⟩
  rw [hjoined, happend, hsecond]
  rfl

/-- A program whose tokens stand further on comes to the same, but for the places that
its failures show. -/
theorem runProgram_shift (h : a.AtTop) (k : Nat) (program : List Lexeme) :
    let moved := runProgram (program.map (Lexeme.shift k)) terms a
    let unmoved := runProgram program terms a
    moved.2 = unmoved.2 ∧ moved.1.mapError Failure.sort = unmoved.1.mapError Failure.sort := by
  intro moved unmoved
  have hagree : Agree (Machine.runTokens (runList (terms.limits.maxDepth - a.depth)) [] program
      (a.env terms) a.state) _ := agree_runTokens k [] program (a.env terms) a.state
  have hmoved : moved = _ := (followsAt_runProgram h (program.map (Lexeme.shift k))).outcome
  have hunmoved : unmoved = _ := (followsAt_runProgram h program).outcome
  rw [hmoved, hunmoved]
  exact ⟨congrArg a.put hagree.1.symm, hagree.mapError.symm⟩

end Arena

/-- **A session of runs is one program.** Let two texts be texts of tokens. Then the
tokens of the first, a line end and the second are those of the first followed by
those of the second, these further on by the bytes of the first and one. And on every
arena with nothing open, where the first runs to its end and no break cuts it short,
the one text comes to the same as the first and then the second: the arena is the same
after it, with its items, its words, its store and its journal, and it ends well or
fails as the second does, with a failure of the same kind. -/
theorem runs_are_one_program {first second : String} {program program' : List Lexeme}
    (hfirst : Lexer.tokenize first = .ok program)
    (hsecond : Lexer.tokenize second = .ok program') :
    Lexer.tokenize (first ++ "\n" ++ second)
      = .ok (program ++ program'.map (Lexeme.shift (byteLength first.toList + 1))) ∧
    ∀ (terms : Terms) (a a' : Arena), a.AtTop →
      Arena.runWith {} first terms a = (.ok (), a') → ¬ a.CutShort terms program →
      let joined := Arena.runWith {} (first ++ "\n" ++ second) terms a
      let apart := Arena.runWith {} second terms a'
      joined.2 = apart.2 ∧ joined.1.mapError Failure.sort = apart.1.mapError Failure.sort := by
  have hjoined := Lexer.tokenize_newline hfirst hsecond
  refine ⟨hjoined, fun terms a a' htop hrun hwhole => ?_⟩
  rw [Arena.runWith_default hfirst] at hrun
  rw [Arena.runWith_default hjoined, Arena.runWith_default hsecond]
  obtain ⟨htop', happend⟩ := Arena.runProgram_append htop hrun hwhole
    (program'.map (Lexeme.shift (byteLength first.toList + 1)))
  rw [happend]
  exact Arena.runProgram_shift htop' _ program'

/-- A comment ends with its line, a word that the first text defines is known to the
second, and the literal that the second leaves open fails at another place. -/
theorem runs_are_one_program_open_literal :
    let terms : Terms := { limits := {}, now := ⟨2024, 1, 1, 0, 0, 0, 0⟩ }
    let a : Arena := .new {}
    let program : List Lexeme :=
      [⟨.int 1, ⟨0, 1⟩⟩, ⟨.text "n", ⟨2, 5⟩⟩, ⟨.word "let", ⟨6, 9⟩⟩]
    let joined := Arena.runWith {} ("1 \"n\" let // one" ++ "\n" ++ "n [2") terms a
    Lexer.tokenize "1 \"n\" let // one" = .ok program ∧
    Lexer.tokenize "n [2" = .ok [⟨.word "n", ⟨0, 1⟩⟩, ⟨.openBracket, ⟨2, 3⟩⟩, ⟨.int 2, ⟨3, 4⟩⟩] ∧
    a.AtTop ∧ ¬ a.CutShort terms program ∧
    ∃ a', Arena.runWith {} "1 \"n\" let // one" terms a = (.ok (), a') ∧
      let apart := Arena.runWith {} "n [2" terms a'
      joined.2 = apart.2 ∧ joined.1.mapError Failure.sort = apart.1.mapError Failure.sort ∧
      joined.1.isOk = false := by
  intro terms a program joined
  have hfirst : Lexer.tokenize "1 \"n\" let // one"
      = .ok [⟨.int 1, ⟨0, 1⟩⟩, ⟨.text "n", ⟨2, 5⟩⟩, ⟨.word "let", ⟨6, 9⟩⟩] := by rfl
  have hsecond : Lexer.tokenize "n [2"
      = .ok [⟨.word "n", ⟨0, 1⟩⟩, ⟨.openBracket, ⟨2, 3⟩⟩, ⟨.int 2, ⟨3, 4⟩⟩] := by rfl
  have htop : a.AtTop := ⟨rfl, rfl⟩
  have hok : (Arena.runWith {} "1 \"n\" let // one" terms a).1.isOk = true := by decide +kernel
  have hwhole : ¬ a.CutShort terms program := Arena.not_cutShort (by decide +kernel)
  rcases hrun : Arena.runWith {} "1 \"n\" let // one" terms a with ⟨_ | _, a'⟩
  · rw [hrun] at hok
    cases hok
  · obtain ⟨-, h⟩ := runs_are_one_program hfirst hsecond
    obtain ⟨harena, hsort⟩ := h terms a a' htop hrun hwhole
    exact ⟨hfirst, hsecond, htop, hwhole, a', rfl, harena, hsort, by decide +kernel⟩

end EntityBase.Machine
