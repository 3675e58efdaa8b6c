import EntityBase.Proofs.Machine.Arena.Program

/-!
# History — what a stack that stays carries from run to run

Between two runs an arena is **idle**: it has one frame, and nothing is under
way. On an idle arena a turn is a run on that frame alone (`Turn.run_eq`), and
it leaves an idle arena again, whether the source cannot be read, the program
stops, runs to its end or fails anywhere. So by induction on the turns, every
history from a new arena ends idle, and all that a later turn can see of it is
the frame that it left.
-/

namespace EntityBase.Machine

open Work (FollowsAt)

namespace Arena

variable {a : Arena} {s : State}

/-- An arena on which nothing is under way: one frame, on which words run and which
is current, no list that runs, no select program and no native word. -/
structure Idle (a : Arena) : Prop where
  cells : a.cells = #[{ frame := a.frame }]
  current : a.current = 0
  depth : a.depth = 0
  selections : a.selections = []
  word : a.word = ""

/-- The idle arena with a given state. -/
def ofState (s : State) : Arena := { new s.frame with store := s.store, journal := s.journal }

theorem idle_ofState (s : State) : (ofState s).Idle := ⟨rfl, rfl, rfl, rfl, rfl⟩

theorem idle_new (frame : Frame) : (new frame).Idle := idle_ofState { frame }

/-- An idle arena is known by its state. -/
theorem Idle.eq_ofState (h : a.Idle) : a = ofState a.state := by
  obtain ⟨hcells, hcurrent, hdepth, hselections, hword⟩ := h
  have hframe : a.state.frame = a.frame := rfl
  unfold ofState new
  rw [hframe, ← hcells]
  obtain ⟨cells, current, depth, word, selections, store, journal⟩ := a
  dsimp only at hcurrent hdepth hselections hword
  subst hcurrent hdepth hselections hword
  rfl

theorem atTop_ofState (s : State) : (ofState s).AtTop := ⟨rfl, rfl⟩

theorem env_ofState (terms : Terms) (s : State) :
    (ofState s).env terms = { limits := terms.limits, now := terms.now } := by
  have hframes : framesAround (ofState s).cells 0 = [] := by
    rw [framesAround]
    rfl
  unfold env envAt
  change ({ limits := terms.limits, now := terms.now, outer := framesAround (ofState s).cells 0 }
    : Env) = _
  rw [hframes]

theorem state_ofState (hs : s.selection = none) : (ofState s).state = s := by
  obtain ⟨frame, store, selection, journal⟩ := s
  subst hs
  rfl

/-- No select program is under way after what fits. -/
theorem selection_of_fits {t : State} (h : (ofState s).Fits t) : t.selection = none :=
  Option.isNone_iff_eq_none.mp (Option.isSome_eq_false_iff.mp h)

theorem put_ofState {t : State} (ht : t.selection = none) : (ofState s).put t = ofState t := by
  obtain ⟨frame, store, selection, journal⟩ := t
  subst ht
  rfl

/-- An idle arena on which a run is prepared. -/
theorem prepare_ofState (options : RunOptions) (s : State) :
    let a := if options.reset then (ofState s).reset else ofState s
    a.setFrame { a.frame with items := options.values.reverse ++ a.frame.items }
      = ofState (s.prepare options) := by
  obtain ⟨values, reset⟩ := options
  cases reset <;> rfl

end Arena

/-! ## Turns -/

section Turns

open Arena

variable {s : State} {terms : Terms}

/-- **A run on an idle arena** is a run on its frame alone and leaves an idle arena. -/
theorem runWith_ofState (options : RunOptions) (source : String) (hs : s.selection = none) :
    let env : Env := { limits := terms.limits, now := terms.now }
    Arena.runWith options source terms (ofState s)
      = ((runWith options source env s).1, ofState (runWith options source env s).2) ∧
    (runWith options source env s).2.selection = none := by
  intro env
  have hprepared : (s.prepare options).selection = none := by
    unfold State.prepare
    cases options.reset
    · exact hs
    · rfl
  have hrun : runWith options source env s = runSource source env (s.prepare options) := rfl
  rw [hrun]
  unfold runSource Arena.runWith
  dsimp only
  rw [prepare_ofState options s]
  cases Lexer.tokenize source with
  | error refusal => exact ⟨rfl, hprepared⟩
  | ok program =>
    have hfollows : FollowsAt terms (ofState (s.prepare options)) (runProgram program)
        (runTokens (runList terms.limits.maxDepth) [] program) :=
      followsAt_runProgram (atTop_ofState (s.prepare options)) program
    obtain ⟨hfits, houtcome⟩ := hfollows
    rw [env_ofState, state_ofState hprepared] at hfits houtcome
    have hselection := selection_of_fits hfits
    rw [put_ofState hselection] at houtcome
    exact ⟨houtcome, hselection⟩

/-- The state in which a turn finds a frame. -/
def Turn.found (t : Turn) (frame : Frame) : State := { frame, store := t.store }

/-- **A turn on an idle arena** depends on its frame alone, and leaves an idle arena. -/
theorem Turn.run_eq (t : Turn) {a : Arena} (h : a.Idle) :
    let env : Env := { limits := t.terms.limits, now := t.terms.now }
    let outcome := runWith t.options t.source env (t.found a.frame)
    t.run a = (outcome.1, ofState outcome.2) := by
  have hfound : ({ a with store := t.store, journal := {} } : Arena) = ofState (t.found a.frame) := by
    rw [h.eq_ofState]
    rfl
  unfold Turn.run
  rw [hfound]
  exact (runWith_ofState t.options t.source rfl).1

theorem Turn.idle (t : Turn) {a : Arena} (h : a.Idle) : (t.run a).2.Idle := by
  rw [t.run_eq h]
  exact idle_ofState _

/-- The arena after some turns. -/
def Arena.after (a : Arena) (turns : List Turn) : Arena := turns.foldl (fun a t => (t.run a).2) a

/-- Every history leaves an arena idle. -/
theorem Arena.Idle.after {a : Arena} (h : a.Idle) (turns : List Turn) : (a.after turns).Idle := by
  induction turns generalizing a with
  | nil => exact h
  | cons t rest ih => exact ih (t.idle h)

/-- **No history is hidden.** After all turns that were taken on a new arena, however
they ended, nothing is under way. So a turn that resets the arena comes to the same
as the turn that does not on a new arena without words and items, and any turn comes
to the same as on a new arena with the frame that is left: the result is the same,
and so is the arena after it with its items, its words, its store and its journal. -/
theorem no_hidden_history (frame : Frame) (turns : List Turn) :
    let a := (Arena.new frame).after turns
    a.Idle ∧
    (∀ terms store values source,
      Turn.run { terms, store, options := { values, reset := true }, source } a
        = Turn.run { terms, store, options := { values }, source } (Arena.new {})) ∧
    ∀ t : Turn, t.run a = t.run (Arena.new a.frame) := by
  intro a
  have hidle : a.Idle := (idle_new frame).after turns
  refine ⟨hidle, fun terms store values source => ?_, fun t => ?_⟩
  · rw [Turn.run_eq _ hidle, Turn.run_eq _ (idle_new {})]
    rfl
  · rw [t.run_eq hidle, t.run_eq (idle_new a.frame)]
    rfl

end Turns

end EntityBase.Machine
