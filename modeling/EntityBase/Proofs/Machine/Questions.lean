import EntityBase.Proofs.Machine.Reading

/-!
# Questions — what the readers ask

Five words read: four of them rows that an optional mask takes in, the fifth the values
of an attribute. A `Question` is what such a word asks of one entity after another, mask
or attribute included. On any stack a reader finds its question first, then an optional
filter and optional candidates, each where it is on top when its turn comes
(`Question.Finds`). So a select program that comes to a reader gives the answer to its
question about the entities of a page (`selectRun_question`); which entities those are,
and in which order, is a matter of `Selection` alone.
-/

namespace EntityBase.Machine

/-- What a reader asks of entities: rows that a mask takes in, or the values of an
attribute. -/
inductive Question where
  | rows (reader : Reader) (mask : Option Bitfield)
  | values (a : Attribute)

variable {q : Question} {filter : Option (Filter Value)} {candidates : Option (List EntityId)}
  {below items program : List Value} {env : Env} {s t u : State} {sel : Selection} {store : Store}
  {levels : Nat}

namespace Question

variable {ids : List EntityId}

/-- The mask that an entity has to meet. -/
def mask : Question → Option Bitfield
  | .rows _ mask => mask
  | .values a => some a.mask

/-- What is read of one entity. -/
def readOf (s : Store) : Question → EntityId → List Value
  | .rows reader mask, e => Selection.readOne s reader mask e
  | .values a, e => a.mask.toList.filterMap fun d => (s.fieldBy? a e d).map Value.ofJson

/-- What is read of entities, one after another. -/
def list (q : Question) (s : Store) (ids : List EntityId) : List Value :=
  ids.flatMap (q.readOf s)

/-- The number that stands for what is read: of the entities for rows, of the values for
an attribute. -/
def number (q : Question) (s : Store) (ids : List EntityId) : Nat :=
  match q with
  | .rows _ _ => ids.length
  | .values _ => (q.list s ids).length

/-- What a reader leaves when it has found some entities. -/
def answer (q : Question) (s : Store) (sel : Selection) (ids : List EntityId) : Value :=
  if sel.count then .int (q.number s (sel.page s ids)) else .list (q.list s (sel.page s ids))

/-- The word that asks. -/
def word : Question → SelectWord
  | .rows reader _ => .read reader
  | .values _ => .readField

def name : Question → String
  | .rows .entities _ => "@e"
  | .rows .entityIds _ => "@eid"
  | .rows .components _ => "@c"
  | .rows .componentIds _ => "@cid"
  | .values _ => "@ca"

/-- The kinds that the word asks for. -/
def pattern : Question → List Kind
  | .rows _ _ => []
  | .values _ => [.attr]

theorem answer_list (q : Question) (hcount : sel.count = false) :
    q.answer store sel ids = .list (q.list store (sel.page store ids)) := by
  rw [answer, hcount]
  rfl

theorem answer_number (q : Question) (hcount : sel.count = true) :
    q.answer store sel ids = .int (q.number store (sel.page store ids)) := by
  rw [answer, hcount]
  rfl

/-! ## What lies on a stack -/

/-- A stack with the mask or the attribute of a question on top of the rest. -/
def Heads : Question → List Value → List Value → Prop
  | .rows _ mask, rest, items => takeMask items = (mask, rest)
  | .values a, rest, items => items = .attr a :: rest

/-- **What a reader finds on a stack**: its question, and below it a filter and
candidates. -/
def Finds (q : Question) (filter : Option (Filter Value)) (candidates : Option (List EntityId))
    (below items : List Value) : Prop :=
  ∃ rest, q.Heads rest items ∧ FindsEntities filter candidates below rest

end Question

/-! ## Asking -/

/-- **A reader leaves the answer to its question.** -/
theorem runSelectWord_question (hfinds : q.Finds filter candidates below s.frame.items)
    (hstore : s.store = some store) (hselection : s.selection = some sel) :
    runSelectWord q.word env s = (.ok (), s.answered sel
      (q.answer store sel (Selection.narrowed store candidates filter q.mask) :: below)) := by
  obtain ⟨⟨items, words⟩, store', selection, journal⟩ := s
  obtain rfl : store' = _ := hstore
  obtain rfl : selection = _ := hselection
  obtain ⟨rest, hheads, hfinds⟩ := hfinds
  cases q with
  | rows reader mask => exact runRead_of_finds reader hheads hfinds rfl rfl
  | values a =>
    obtain rfl : items = .attr a :: rest := hheads
    change runReadField env _ = _
    rw [runReadField, Run.bind_ok (x := a) rfl]
    exact runFound hfinds rfl

/-! ## Words of select programs -/

section Words

variable {runList : List Value → Run Flow}

/-- Whether a frame has the words of select programs by a name, and no other. -/
def Frame.Knows (frame : Frame) (name : String) : Prop :=
  frame.words.named name = Words.named Dictionary.selectScope name

theorem Frame.Knows.question {frame : Frame} (h : frame.Knows q.name) :
    frame.words.named q.name = [Dictionary.word q.pattern (.select q.word)] := by
  refine Eq.trans h ?_
  cases q with
  | rows reader mask => cases reader <;> rfl
  | values a => rfl

/-- What a question asks for lies on the stack on which it is found. -/
theorem Question.Finds.accepts (h : q.Finds filter candidates below items) :
    (Dictionary.word q.pattern (.select q.word)).accepts items = true := by
  obtain ⟨rest, hheads, -⟩ := h
  cases q with
  | rows reader mask => rfl
  | values a =>
    obtain rfl : items = .attr a :: rest := hheads
    rfl

theorem runValues_question (hrun : runValues runList program env s = (.ok .next, t))
    (hknows : t.frame.Knows q.name) (hfinds : q.Finds filter candidates below t.frame.items)
    (hstore : t.store = some store) (hselection : t.selection = some sel) :
    runValues runList (program ++ [.quoted (.word q.name)]) env s
      = (.ok .next, t.answered sel
        (q.answer store sel (Selection.narrowed store candidates filter q.mask) :: below)) :=
  runValues_selectWord hrun hknows.question hfinds.accepts
    (runSelectWord_question hfinds hstore hselection)

end Words

/-! ## Select programs that end with a question -/

/-- Whether a select program that begins in a state comes to another one. -/
def Comes (levels : Nat) (env : Env) (s : State) (program : List Value) (t : State) : Prop :=
  runValues (runList levels) program { env with outer := s.frame :: env.outer } s.selecting
    = (.ok .next, t)

/-- The run of a select program on the entity set. -/
def selectRun (levels : Nat) (env : Env) (s : State) (program : List Value) :
    Except Failure Flow × State :=
  runControl (runList (levels + 1)) .select env (s.withProgram program)

/-- A select program that comes to a reader: where it is, the word of the question is
known, and the question, a filter and candidates are found on the stack. -/
structure ComesTo (levels : Nat) (env : Env) (s : State) (program : List Value) (store : Store)
    (sel : Selection) (q : Question) (filter : Option (Filter Value))
    (candidates : Option (List EntityId)) (below : List Value) (t : State) : Prop where
  comes : Comes levels env s program t
  store_eq : t.store = some store
  selection_eq : t.selection = some sel
  knows : t.frame.Knows q.name
  finds : q.Finds filter candidates below t.frame.items

/-- **A select program that comes to a reader gives the answer to its question.** -/
theorem selectRun_question (h : ComesTo levels env s program store sel q filter candidates below t) :
    selectRun levels env s (program ++ [.quoted (.word q.name)])
      = (.ok .next, s.selected t (selectResult sel.count
        (q.answer store sel (Selection.narrowed store candidates filter q.mask) :: below))) := by
  have hread := runValues_question h.comes h.knows h.finds h.store_eq h.selection_eq
  have hselect := runSelect_of_read hread State.selection_answered rfl
  exact hselect

/-- Whether a select program that came to the state `t` gives a list if it goes on with
the reader of a question. -/
def Gives (levels : Nat) (env : Env) (s t : State) (q : Question) (below program read : List Value) :
    Prop :=
  selectRun levels env s (program ++ [.quoted (.word q.name)])
    = (.ok .next, s.selected t (selectResult false (.list read :: below)))

/-- A program that has not asked for a number gives what is read of the page. -/
theorem gives_page (hto : ComesTo levels env s program store sel q filter candidates below t)
    (hcount : sel.count = false) :
    Gives levels env s t q below program (q.list store
      (sel.page store (Selection.narrowed store candidates filter q.mask))) := by
  have hrun := selectRun_question hto
  rw [q.answer_list hcount, hcount] at hrun
  exact hrun

end EntityBase.Machine
