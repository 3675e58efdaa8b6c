import EntityBase.Proofs.Machine.Arena.Evaluation

/-!
# Isolation — a list on a frame of its own stays there

What runs on a frame leaves the other frames of the arena alone, whatever comes
of it: that is what following a run on nested frames gives, since writing the
state of that run back touches the current frame only. What runs on a frame of
its own leaves even the current one alone, for the frame it ran on is gone
afterwards and the arena is back at the place of before.

The words that run lists on frames of their own therefore do to the current
frame what they do without those lists: they take their operands and push one
value. No list that they run can take an item more, leave another one or define
a word that is seen afterwards.
-/

namespace EntityBase.Machine

variable {α β : Type}

/-! ## What stays of an arena -/

namespace Arena

/-- All frames are as they were, and so are the place of the current one, the depth
and the word that runs. -/
structure SameFrames (a a' : Arena) : Prop where
  cells : a'.cells = a.cells
  current : a'.current = a.current
  depth : a'.depth = a.depth
  word : a'.word = a.word

/-- All frames but the current one are as they were, and so is all that is known of
the current one besides its items and its words. -/
structure SameElsewhere (a a' : Arena) : Prop where
  size : a'.cells.size = a.cells.size
  cells : ∀ k, k ≠ a.current → a'.cells.getD k {} = a.cells.getD k {}
  cell : a'.cell = { a.cell with frame := a'.frame }
  current : a'.current = a.current
  depth : a'.depth = a.depth
  word : a'.word = a.word

variable {a : Arena} {s : State}

theorem sameElsewhere_put : a.SameElsewhere (a.put s) where
  size := size_put
  cells _ hk := getD_setFrame_of_ne hk
  cell := by
    have hcell : (a.put s).cell = if a.current = a.current ∧ a.current < a.cells.size then
        { a.cell with frame := s.frame } else a.cell := getD_modify ..
    have hframe : (a.put s).frame = (a.put s).cell.frame := rfl
    rw [hframe, hcell]
    split <;> rfl
  current := rfl
  depth := rfl
  word := rfl

theorem sameFrames_put (h : s.frame = a.frame) : a.SameFrames (a.put s) where
  cells := by
    change (a.setFrame s.frame).cells = a.cells
    rw [h, setFrame_frame]
  current := rfl
  depth := rfl
  word := rfl

end Arena

/-! ## Taking operands -/

/-- A frame on which some items from the top were replaced by a number of others. A
failure may come when only some of them were taken. -/
def Frame.Exchanged (taken left : Nat) (f : Frame) (r : Except Failure α) (f' : Frame) : Prop :=
  match r with
  | .ok _ => taken ≤ f.items.length ∧
    ∃ values, values.length = left ∧ f' = { f with items := values ++ f.items.drop taken }
  | .error _ => ∃ j ≤ taken, f' = { f with items := f.items.drop j }

/-- Operands that lie below others. -/
theorem Frame.Exchanged.below {taken further left : Nat} {f f' : Frame} {r : Except Failure α}
    (h : ({ f with items := f.items.drop taken } : Frame).Exchanged further left r f')
    (htaken : taken ≤ f.items.length) : f.Exchanged (taken + further) left r f' := by
  cases r with
  | ok x =>
    obtain ⟨hfurther, values, hvalues, hframe⟩ := h
    rw [List.length_drop] at hfurther
    rw [List.drop_drop] at hframe
    exact ⟨by omega, values, hvalues, hframe⟩
  | error e =>
    obtain ⟨j, hj, hframe⟩ := h
    rw [List.drop_drop] at hframe
    exact ⟨taken + j, Nat.add_le_add_left hj taken, hframe⟩

/-- A run that replaces so many items from the top by so many others, and leaves the
rest of the frame alone. -/
def Run.Exchanges (taken left : Nat) (m : Run α) : Prop := ∀ env (s : State),
  s.frame.Exchanged taken left (m env s).1 (m env s).2.frame

namespace Run.Exchanges

variable {taken further left : Nat} {m : Run α}

theorem keeps (h : ∀ env s, (m env s).2.frame = s.frame) : Exchanges 0 0 m := by
  intro env s
  rw [h env s]
  cases (m env s).1 with
  | ok x => exact ⟨Nat.zero_le _, [], rfl, rfl⟩
  | error e => exact ⟨0, Nat.le_refl 0, rfl⟩

theorem pure (x : α) : Exchanges 0 0 (Pure.pure x : Run α) := keeps fun _ _ => rfl

theorem pop : Exchanges 1 0 Run.pop := by
  intro env s
  unfold Run.pop
  obtain ⟨⟨items, words⟩, store, selection, journal⟩ := s
  cases items with
  | nil => exact ⟨0, Nat.zero_le 1, rfl⟩
  | cons v rest => exact ⟨Nat.le_add_left 1 _, [], rfl, rfl⟩

theorem push (v : Value) : Exchanges 0 1 (Run.push v) :=
  fun _ _ => ⟨Nat.zero_le _, [v], rfl, rfl⟩

/-- Operands that are taken first lie on top of those that are taken next. -/
theorem bind {f : α → Run β} (hm : Exchanges taken 0 m) (hf : ∀ x, Exchanges further left (f x)) :
    Exchanges (taken + further) left (m >>= f) := by
  intro env s
  have hfirst := hm env s
  rcases bind_cases m f env s with ⟨x, t, hrun, hbind⟩ | ⟨e, t, hrun, hbind⟩
  · rw [hrun] at hfirst
    obtain ⟨htaken, values, hvalues, hframe⟩ := hfirst
    obtain rfl := List.length_eq_zero_iff.mp hvalues
    have hsecond := hf x env t
    rw [hframe] at hsecond
    rw [hbind]
    exact hsecond.below htaken
  · rw [hrun] at hfirst
    obtain ⟨j, hj, hframe⟩ := hfirst
    rw [hbind]
    exact ⟨j, Nat.le_add_right_of_le hj, hframe⟩

theorem popAs (what : Expectation) (read : Value → Option α) :
    Exchanges 1 0 (Run.popAs what read) := by
  refine (pop.bind fun v => ?_ : Exchanges (1 + 0) 0 _)
  split
  · exact pure _
  · exact keeps fun _ _ => rfl

/-- A run without result as one that goes on. -/
theorem next {m : Run Unit} (h : Exchanges taken left m) : Exchanges taken left (andNext m) := by
  intro env s
  have hchange := h env s
  unfold andNext
  rcases bind_cases m _ env s with ⟨x, t, hrun, hbind⟩ | ⟨e, t, hrun, hbind⟩
  · rw [hrun] at hchange
    rw [hbind]
    exact hchange
  · rw [hrun] at hchange
    rw [hbind]
    exact hchange

end Run.Exchanges

/-! ## Words that run lists on frames of their own -/

/-- The words that run lists on frames of their own only, and how many operands they
take. -/
inductive Nesting : ControlWord → Nat → Prop
  | eval : Nesting .eval 1
  | map : Nesting .map 2
  | filter : Nesting .filter 2
  | reduce : Nesting .reduce 3
  | select : Nesting .select 2

section Control

open Run.Exchanges
open Run (Exchanges)

variable {runList : List Value → Run Flow}

/-- The frame that was set aside is there again. -/
theorem frame_onFrame (frame : Frame) (body : List Value) (env : Env) (s : State) :
    (onFrame runList frame body env s).2.frame = s.frame := by
  unfold onFrame
  split <;> rfl

theorem exchanges_onFrame (frame : Frame) (body : List Value) :
    Exchanges 0 0 (onFrame runList frame body) := keeps (frame_onFrame frame body)

theorem exchanges_mapItems (body gathered items : List Value) :
    Exchanges 0 0 (mapItems runList body gathered items) := by
  induction items generalizing gathered with
  | nil => exact pure gathered
  | cons v rest ih =>
    rw [mapItems_eq_bind]
    exact (exchanges_onFrame _ body).bind fun left => ih _

theorem exchanges_filterItems (body gathered items : List Value) :
    Exchanges 0 0 (filterItems runList body gathered items) := by
  induction items generalizing gathered with
  | nil => exact pure gathered
  | cons v rest ih =>
    rw [filterItems_eq_bind]
    exact (exchanges_onFrame _ body).bind fun left => ih _

theorem exchanges_reduceItems (body : List Value) (acc : Value) (items : List Value) :
    Exchanges 0 0 (reduceItems runList body acc items) := by
  induction items generalizing acc with
  | nil => exact pure acc
  | cons v rest ih =>
    rw [reduceItems_eq_bind]
    exact (exchanges_onFrame _ body).bind fun left => ih _

theorem exchanges_selectItems (body : List Value) :
    Exchanges 0 0 (selectItems runList body) := by
  have hget : Exchanges 0 0 Run.get := keeps fun _ _ => rfl
  refine (exchanges_onFrame _ body).bind fun left =>
    (hget.bind fun s => ?_ : Exchanges (0 + 0) 0 _)
  split
  · exact exchanges_onFrame _ _
  · exact pure left

theorem exchanges_selecting {m : Run α} (h : Exchanges 0 0 m) :
    Exchanges 0 0 (Run.selecting m) := by
  intro env s
  have hinner := h env { s with selection := some {} }
  unfold Run.selecting
  cases hrun : m env { s with selection := some {} } with
  | mk r t =>
    rw [hrun] at hinner
    cases r with
    | ok x => exact hinner
    | error e => exact hinner

theorem exchanges_runSelect (body : List Value) : Exchanges 0 1 (runSelect runList body) := by
  rw [runSelect_eq_bind]
  exact (exchanges_selecting (exchanges_selectItems body)).bind fun left => push _

/-- **What a nesting word does to its frame** does not depend on what the lists that
it runs do. -/
theorem Nesting.exchanges {w : ControlWord} {n : Nat} (hw : Nesting w n) :
    Exchanges n 1 (runControl runList w) := by
  cases hw with
  | eval =>
    exact (popAs _ _).bind fun body => (exchanges_onFrame _ body).bind fun left => (push _).next
  | map =>
    exact (popAs _ _).bind fun body => (popAs _ _).bind fun items =>
      (exchanges_mapItems body [] items).bind fun gathered => (push _).next
  | filter =>
    exact (popAs _ _).bind fun body => (popAs _ _).bind fun items =>
      (exchanges_filterItems body [] items).bind fun gathered => (push _).next
  | reduce =>
    exact (popAs _ _).bind fun body => pop.bind fun acc => (popAs _ _).bind fun items =>
      (exchanges_reduceItems body acc items).bind fun v => (push v).next
  | select =>
    exact (popAs _ _).bind fun body => (popAs _ _).bind fun _ =>
      (exchanges_runSelect body).next

end Control

/-! ## Isolation -/

/-- Work that follows a run leaves the other frames alone. -/
theorem Work.FollowsAt.sameElsewhere {terms : Terms} {a : Arena} {w : Work α} {m : Run α}
    (h : Work.FollowsAt terms a w m) : a.SameElsewhere (w terms a).2 := by
  rw [h.outcome]
  exact Arena.sameElsewhere_put

/-- **Frames are isolated.** On every arena, on however many levels lists run, and
whatever comes of it:
1. a list that runs on a frame of its own leaves all frames as they were;
2. a list that runs on the current frame leaves all other frames as they were;
3. so does whatever has a name, native word or list;
4. a word that runs lists on frames of their own takes its operands off the current
   frame and pushes one value, and a failure takes no more than those. -/
theorem frames_isolated (terms : Terms) (a : Arena) (ha : a.current < a.cells.size)
    (levels : Nat) :
    (∀ frame body,
      a.SameFrames (Work.onChild frame (Arena.evalList levels body) terms a).2) ∧
    (∀ body, a.SameElsewhere (Arena.evalList levels body terms a).2) ∧
    (∀ name, a.SameElsewhere (Arena.invoke (Arena.evalList levels) name terms a).2) ∧
    ∀ w n, Nesting w n →
      a.SameElsewhere (Arena.runControl (Arena.evalList levels) w terms a).2 ∧
      a.frame.Exchanged n 1 (Arena.runControl (Arena.evalList levels) w terms a).1
        (Arena.runControl (Arena.evalList levels) w terms a).2.frame := by
  have hlist (body : List Value) : Work.Follows (terms.limits.maxDepth - a.depth)
      (Arena.evalList levels body) (runList (min levels (terms.limits.maxDepth - a.depth)) body) :=
    follows_evalList levels body
  refine ⟨fun frame body => ?_, fun body => ?_, fun name => ?_, fun w n hw => ?_⟩
  · have hchild : Work.FollowsAt terms a (Work.onChild frame (Arena.evalList levels body)) _ :=
      (hlist body).onChild terms a ha rfl
    rw [hchild.outcome]
    exact Arena.sameFrames_put (frame_onFrame frame body _ _)
  · exact (hlist body terms a ha rfl).sameElsewhere
  · exact (follows_invoke hlist name terms a ha rfl).sameElsewhere
  · have hfollows := follows_runControl hlist w terms a ha rfl
    refine ⟨hfollows.sameElsewhere, ?_⟩
    rw [hfollows.outcome, Arena.frame_put ha]
    exact hw.exchanges _ a.state

/-- Inside a frame that holds `7`, the list `1 x let drop` fails on a frame of its
own, after it defined a word. -/
theorem frames_isolated_failing_list :
    let terms : Terms := { limits := { maxDepth := 1 }, now := ⟨2024, 1, 1, 0, 0, 0, 0⟩ }
    let a : Arena := (Arena.new { items := [.int 7] }).enter {}
    let body : List Value := [.int 1, .text "x", .quoted (.word "let"), .quoted (.word "drop")]
    a.current < a.cells.size ∧
      (Work.onChild {} (Arena.evalList 1 body) terms a).1.isOk = false ∧
      a.SameFrames (Work.onChild {} (Arena.evalList 1 body) terms a).2 := by
  intro terms a body
  have ha : a.current < a.cells.size := by decide
  exact ⟨ha, by decide +kernel, (frames_isolated terms a ha 1).1 {} body⟩

end EntityBase.Machine
