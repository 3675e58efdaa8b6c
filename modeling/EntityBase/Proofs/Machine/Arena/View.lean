import EntityBase.Machine.Arena.Program

/-!
# Views — an arena seen from a place

What is seen from a place of an arena, its frame and those around it, depends on
the cells up to there. So writing to the current frame leaves its surroundings
as they were, and entering a cell puts the frame of before in front of them.
Writing a state back and reading it again gives the state, and a write replaces
the write before it.
-/

namespace EntityBase.Machine

/-! ## Cells -/

theorem getD_modify (cells : Array Cell) (k i : Nat) (f : Cell → Cell) :
    (cells.modify k f).getD i {} = if i = k ∧ i < cells.size then f (cells.getD i {})
      else cells.getD i {} := by
  simp only [Array.getD_eq_getD_getElem?, Array.getElem?_modify]
  by_cases hi : i < cells.size
  · by_cases hk : k = i
    · simp [hk, hi]
    · simp [hk, Ne.symm hk]
  · simp [hi]

theorem getD_push_of_lt {cells : Array Cell} {i : Nat} (h : i < cells.size) (c : Cell) :
    (cells.push c).getD i {} = cells.getD i {} := by
  simp [Array.getD_eq_getD_getElem?, Array.getElem?_push, Nat.ne_of_lt h]

theorem getD_push_size (cells : Array Cell) (c : Cell) :
    (cells.push c).getD cells.size {} = c := by
  simp [Array.getD_eq_getD_getElem?]

/-- The frames around a place are those of cells before it. -/
theorem framesAround_congr {cells cells' : Array Cell} {i : Nat}
    (hparent : ∀ j ≤ i, (cells.getD j {}).parent = (cells'.getD j {}).parent)
    (hframe : ∀ j < i, frameAt cells j = frameAt cells' j) :
    framesAround cells i = framesAround cells' i := by
  induction i using Nat.strongRecOn with
  | ind i ih =>
    rw [framesAround, framesAround, hparent i (Nat.le_refl i)]
    cases (cells'.getD i {}).parent with
    | none => rfl
    | some p =>
      dsimp only
      by_cases hp : p < i
      · rw [if_pos hp, if_pos hp, hframe p hp, ih p hp (fun j hj => hparent j (by omega))
          fun j hj => hframe j (by omega)]
      · rw [if_neg hp, if_neg hp]

namespace Arena

variable {a : Arena} {s t : State} {terms : Terms}

/-! ## Writing to the current frame -/

@[simp] theorem size_setFrame (frame : Frame) :
    (a.setFrame frame).cells.size = a.cells.size := by
  simp [setFrame]

/-- The other cells are left alone. -/
theorem getD_setFrame_of_ne {frame : Frame} {k : Nat} (h : k ≠ a.current) :
    (a.setFrame frame).cells.getD k {} = a.cells.getD k {} := by
  unfold setFrame
  rw [getD_modify, if_neg fun hboth => h hboth.1]

theorem parent_setFrame (frame : Frame) (k : Nat) :
    ((a.setFrame frame).cells.getD k {}).parent = (a.cells.getD k {}).parent := by
  unfold setFrame
  rw [getD_modify]
  split <;> rfl

theorem kind_setFrame (frame : Frame) (k : Nat) :
    ((a.setFrame frame).cells.getD k {}).kind = (a.cells.getD k {}).kind := by
  unfold setFrame
  rw [getD_modify]
  split <;> rfl

theorem frame_setFrame (ha : a.current < a.cells.size) (frame : Frame) :
    (a.setFrame frame).frame = frame := by
  change ((a.cells.modify a.current _).getD a.current {}).frame = frame
  rw [getD_modify, if_pos ⟨rfl, ha⟩]

theorem framesAround_setFrame (frame : Frame) {k : Nat} (h : k ≤ a.current) :
    framesAround (a.setFrame frame).cells k = framesAround a.cells k := by
  refine framesAround_congr (fun j _ => parent_setFrame frame j) fun j hj => ?_
  exact congrArg Cell.frame (getD_setFrame_of_ne (by omega))

theorem setFrame_setFrame (frame frame' : Frame) :
    (a.setFrame frame).setFrame frame' = a.setFrame frame' := by
  have hcells : (a.cells.modify a.current fun c => { c with frame }).modify a.current
      (fun c => { c with frame := frame' })
        = a.cells.modify a.current fun c => { c with frame := frame' } := by
    ext i hi hi'
    · simp
    · simp only [Array.getElem_modify]
      split <;> rfl
  unfold setFrame
  dsimp only
  rw [hcells]

theorem setFrame_frame (a : Arena) : a.setFrame a.frame = a := by
  have hcells : (a.cells.modify a.current fun c => { c with frame := a.frame }) = a.cells := by
    ext i hi hi'
    · simp
    · simp only [Array.getElem_modify]
      split
      · rename_i heq
        subst heq
        have hcell : a.frame = a.cells[a.current].frame := by
          simp [frame, cell, Array.getD_eq_getD_getElem?, hi']
        simp only [hcell]
      · rfl
  unfold setFrame
  rw [hcells]

/-! ## Writing a state back -/

/-- A state that can be written back: whether a select program runs is not for a
run to decide. -/
def Fits (a : Arena) (s : State) : Prop := s.selection.isSome = a.state.selection.isSome

@[simp] theorem current_put : (a.put s).current = a.current := rfl

@[simp] theorem size_put : (a.put s).cells.size = a.cells.size := size_setFrame s.frame

@[simp] theorem env_put : (a.put s).env terms = a.env terms := by
  unfold env envAt
  have hframes : framesAround (a.put s).cells (a.put s).current
      = framesAround a.cells a.current := framesAround_setFrame s.frame (Nat.le_refl _)
  rw [hframes]
  rfl

theorem Fits.cases (hs : a.Fits s) :
    (∃ sel, s.selection = some sel) ∨ s.selection = none ∧ a.selections = [] := by
  have hsome : s.selection.isSome = a.selections.head?.isSome := hs
  cases hselection : s.selection with
  | some sel => exact .inl ⟨sel, rfl⟩
  | none =>
    rw [hselection] at hsome
    exact .inr ⟨rfl, by simpa using hsome.symm⟩

theorem head?_selections_put (hs : a.Fits s) : (a.put s).selections.head? = s.selection := by
  change (s.selection.toList ++ a.selections.tail).head? = s.selection
  rcases hs.cases with ⟨sel, hsel⟩ | ⟨hnone, hempty⟩
  · rw [hsel]
    rfl
  · rw [hnone, hempty]
    rfl

theorem tail_selections_put (hs : a.Fits s) :
    (a.put s).selections.tail = a.selections.tail := by
  change (s.selection.toList ++ a.selections.tail).tail = a.selections.tail
  rcases hs.cases with ⟨sel, hsel⟩ | ⟨hnone, hempty⟩
  · rw [hsel]
    rfl
  · rw [hnone, hempty]
    rfl

theorem frame_put (ha : a.current < a.cells.size) : (a.put s).frame = s.frame :=
  frame_setFrame ha s.frame

/-- Reading what was written. -/
theorem state_put (ha : a.current < a.cells.size) (hs : a.Fits s) : (a.put s).state = s := by
  have hframe : frameAt (a.put s).cells (a.put s).current = s.frame := frame_put ha
  unfold state stateAt
  rw [hframe, head?_selections_put hs]
  rfl

/-- A write replaces the write before it. -/
theorem put_put (hs : a.Fits s) : (a.put s).put t = a.put t := by
  have hcells := congrArg Arena.cells (setFrame_setFrame (a := a) s.frame t.frame)
  have htail := tail_selections_put hs
  change ({ a with
    cells := ((a.setFrame s.frame).setFrame t.frame).cells
    store := t.store
    selections := t.selection.toList ++ (a.put s).selections.tail
    journal := t.journal } : Arena) = _
  rw [hcells, htail]
  rfl

theorem selections_put_selection (h : s.selection = a.state.selection) :
    (a.put s).selections = a.selections := by
  change s.selection.toList ++ a.selections.tail = a.selections
  rw [h]
  change a.selections.head?.toList ++ a.selections.tail = a.selections
  cases a.selections <;> rfl

/-- A state that is written back beside other settings, which go after it. -/
theorem put_selecting (sel : Selection) (s : State) :
    ({ ({ a with selections := sel :: a.selections } : Arena).put s with
      selections := a.selections } : Arena) = a.put { s with selection := a.state.selection } := by
  have hselections := selections_put_selection (a := a)
    (s := { s with selection := a.state.selection }) rfl
  change ({ a.put { s with selection := a.state.selection } with
    selections := a.selections } : Arena) = _
  rw [← hselections]

/-- Changing the frame is writing back the state with that frame. -/
theorem setFrame_eq_put (frame : Frame) : a.setFrame frame = a.put { a.state with frame } := by
  have hselections := selections_put_selection (a := a) (s := { a.state with frame }) rfl
  change _ = ({ a.setFrame frame with
    selections := (a.put { a.state with frame }).selections } : Arena)
  rw [hselections]
  rfl

/-- Writing what is there changes nothing. -/
@[simp] theorem put_state (a : Arena) : a.put a.state = a :=
  (setFrame_eq_put a.frame).symm.trans a.setFrame_frame

/-! ## Entering and leaving cells -/

variable {c : Cell}

theorem current_lt_enter : (a.enter c).current < (a.enter c).cells.size := by
  simp [enter]

theorem cell_enter : (a.enter c).cell = { c with parent := some a.current } :=
  getD_push_size ..

/-- The frame of before is the first one around the cell that was entered. -/
theorem framesAround_enter (ha : a.current < a.cells.size) :
    framesAround (a.enter c).cells (a.enter c).current
      = a.frame :: framesAround a.cells a.current := by
  have hparent : ((a.enter c).cells.getD (a.enter c).current {}).parent = some a.current :=
    congrArg Cell.parent cell_enter
  have hbelow : ∀ j ≤ a.current, (a.enter c).cells.getD j {} = a.cells.getD j {} :=
    fun j hj => getD_push_of_lt (by omega) _
  rw [framesAround, hparent]
  dsimp only
  rw [if_pos (show a.current < (a.enter c).current from ha)]
  congr 1
  · exact congrArg Cell.frame (hbelow a.current (Nat.le_refl _))
  · exact framesAround_congr (fun j hj => by rw [hbelow j hj])
      fun j hj => congrArg Cell.frame (hbelow j (Nat.le_of_lt hj))

theorem env_enter (ha : a.current < a.cells.size) :
    (a.enter c).env terms
      = { a.env terms with outer := a.state.frame :: (a.env terms).outer } := by
  unfold env envAt
  rw [framesAround_enter ha]
  rfl

theorem state_enter : (a.enter c).state = { a.state with frame := c.frame } := by
  have hframe : (a.enter c).frame = c.frame := by
    unfold Arena.frame
    rw [cell_enter]
  unfold state stateAt
  rw [← hframe]
  rfl

theorem setFrame_enter (frame : Frame) :
    (a.enter c).setFrame frame = a.enter { c with frame } := by
  have hcells : (a.cells.push { c with parent := some a.current }).modify a.cells.size
      (fun c => { c with frame }) = a.cells.push { c with parent := some a.current, frame } := by
    ext i hi hi'
    · simp
    · by_cases h : i = a.cells.size
      · subst h
        simp [Array.getElem_modify]
      · have hlt : i < a.cells.size := by
          simp only [Array.size_push] at hi'
          omega
        simp [Array.getElem_modify, Array.getElem_push, hlt, Ne.symm h]
  unfold setFrame enter
  dsimp only
  rw [hcells]

theorem last_enter : (a.enter c).last = { c with parent := some a.current } := by
  simp [last, enter]

/-- A cell that is entered and left. -/
theorem leave_enter : (a.enter c).leave = a := by
  unfold leave
  rw [last_enter]
  simp [enter]

/-- The state of a run on a cell that was entered, written back. -/
theorem put_enter : (a.enter c).put s = ({ a with
    store := s.store
    selections := s.selection.toList ++ a.selections.tail
    journal := s.journal } : Arena).enter { c with frame := s.frame } :=
  congrArg (fun b : Arena => ({ b with
    store := s.store
    selections := s.selection.toList ++ a.selections.tail
    journal := s.journal } : Arena)) (setFrame_enter s.frame)

theorem last_put_enter :
    ((a.enter c).put s).last = { c with parent := some a.current, frame := s.frame } := by
  rw [put_enter, last_enter]

/-- **A cell that is entered and left** leaves the other ones as they were. -/
theorem leave_put_enter :
    ((a.enter c).put s).leave = a.put { s with frame := a.frame } := by
  rw [put_enter, leave_enter]
  change _ = ({ a.setFrame a.frame with
    store := s.store
    selections := s.selection.toList ++ a.selections.tail
    journal := s.journal } : Arena)
  rw [setFrame_frame]

end Arena

/-! ## Runs on the current frame -/

namespace Work

variable {α : Type} {m : Run α} {r : Except Failure α} {s : State} {terms : Terms} {a : Arena}

theorem lift_eq (h : m (a.env terms) a.state = (r, s)) : Work.lift m terms a = (r, a.put s) := by
  rw [Work.lift, h]

/-- A run that changes nothing leaves the arena as it was. -/
theorem lift_eq_self (h : m (a.env terms) a.state = (r, a.state)) :
    Work.lift m terms a = (r, a) := by
  rw [lift_eq h, Arena.put_state]

end Work

end EntityBase.Machine
