import EntityBase.Machine.Evaluation

/-!
# Plain runs — what a native word is made of

A native word that runs no list is made of **plain steps**: it takes items and
leaves items, defines a word, reads the frames around it, reads or replaces the
store, sets up the select program that runs, writes into the journal, or fails.
`Run.Plain` is the sequences of such steps. What each plain step does and
sequences keep, every one of these words does, by induction on how it is made.

No plain step fails because a ceiling is reached: that is for the words that run
lists.
-/

namespace EntityBase

/-- Whether a failure says that a ceiling is reached. -/
def Failure.ofCeiling : Failure → Bool
  | .runawayLoop _ | .depthExceeded _ => true
  | _ => false

theorem Failure.ofCeiling_ofStore (e : StoreError) : (Failure.ofStore e).ofCeiling = false := by
  cases e <;> rfl

namespace Machine

variable {α : Type}

/-- The surroundings with another word running under another ceiling. -/
def Env.shifted (env : Env) (word : String) (maxDepth : Nat) : Env :=
  { env with word, limits := { env.limits with maxDepth } }

namespace Run

/-- A run that is made of plain steps. Of its surroundings it reads neither the
word nor the ceilings, except to word a failure, and where it asks whether unknown
definitions are failures, it goes on without that as it does with it. -/
inductive Plain : {α : Type} → Run α → Prop
  /-- reads the state and changes the current frame -/
  | step {α : Type} (g : State → α × Frame) :
      Plain fun _ s => (.ok (g s).1, { s with frame := (g s).2 })
  /-- reads the surroundings -/
  | env {α : Type} {f : Env → Run α} (hf : ∀ env, Plain (f env))
      (hshift : ∀ env word limits, f { env with word, limits } = f env) :
      Plain (Run.env >>= f)
  /-- reads whether unknown definitions are failures -/
  | policy {α : Type} {f : Bool → Run α} (hf : ∀ strict, Plain (f strict))
      (hlax : ∀ env s x t, f true env s = (.ok x, t) → f false env s = (.ok x, t)) :
      Plain (Run.env >>= fun env => f env.limits.strictDefs)
  | bind {α β : Type} {m : Run α} {f : α → Run β} (hm : Plain m) (hf : ∀ a, Plain (f a)) :
      Plain (m >>= f)
  | fail {α : Type} (e : Failure) (he : e.ofCeiling = false) : Plain (Run.fail e : Run α)
  | complain {α : Type} (word : String) (c : Complaint) (shown : List Value) :
      Plain (Run.complain word c shown : Run α)
  | invalid {α : Type} (c : Complaint) : Plain (Run.invalid c : Run α)
  | incompatible {α : Type} (left right : Value) : Plain (Run.incompatible left right : Run α)
  | pop : Plain Run.pop
  | store : Plain Run.store
  | setStore (store : Store) : Plain (Run.setStore store)
  | select (f : Selection → Selection) : Plain (Run.select f)
  | journal (g : Journal → Journal) : Plain (Run.modify fun s => { s with journal := g s.journal })

namespace Plain

theorem pure (a : α) : Plain (Pure.pure a : Run α) := step fun s => (a, s.frame)

theorem get : Plain Run.get := step fun s => (s, s.frame)

theorem items : Plain Run.items := step fun s => (s.frame.items, s.frame)

theorem next {m : Run Unit} (hm : Plain m) : Plain (andNext m) := hm.bind fun _ => pure _

/-! ## Changes of the frame -/

theorem modifyItems (f : List Value → List Value) : Plain (Run.modifyItems f) :=
  step fun s => ((), { s.frame with items := f s.frame.items })

theorem push (v : Value) : Plain (Run.push v) := modifyItems _

theorem define (name : String) (w : Word) : Plain (Run.define name w) :=
  step fun s => ((), { s.frame with words := (name, w) :: s.frame.words })

theorem ofExcept (r : Except Objection α) : Plain (Run.ofExcept r) := by
  unfold Run.ofExcept
  split
  · exact pure _
  · exact invalid _
  · exact fail _ (Failure.ofCeiling_ofStore _)

/-- A computation that takes the top item where it reads as something, and comes to
nothing where it does not, is a step. -/
theorem takeIf {m : Run (Option α)} (read : Value → Option α)
    (hm : ∀ env s, m env s = (.ok (s.frame.items.head?.bind read),
      { s with frame := if (s.frame.items.head?.bind read).isSome
        then { s.frame with items := s.frame.items.tail } else s.frame })) : Plain m := by
  obtain rfl : m = _ := funext fun env => funext fun s => hm env s
  exact step fun s => (_, _)

theorem popIf (k : Kind) : Plain (Run.popIf k) := by
  refine takeIf (Option.guard fun v => v.isOf k) fun env s => ?_
  unfold Run.popIf
  cases hitems : s.frame.items with
  | nil => simp
  | cons v rest => by_cases hv : v.isOf k = true <;> simp [Option.guard, hv]

theorem popAs (what : Expectation) (read : Value → Option α) : Plain (Run.popAs what read) := by
  refine bind pop fun v => ?_
  split
  · exact pure _
  · exact invalid _

theorem popScalar : Plain Run.popScalar := popAs _ _

theorem popList : Plain Run.popList := popAs _ _

theorem popMap : Plain Run.popMap := popAs _ _

theorem popInteger : Plain Run.popInteger := popAs _ _

theorem popName : Plain Run.popName := popAs _ _

theorem popEntitySet : Plain Run.popEntitySet := popAs _ _

theorem popBitfield : Plain Run.popBitfield := popAs _ _

theorem popAttr : Plain Run.popAttr := popAs _ _

theorem popComponent : Plain Run.popComponent := popAs _ _

theorem popEntity : Plain Run.popEntity := popAs _ _

/-! ## The journal -/

theorem notify (notices : List Notice) : Plain (Run.notify notices) :=
  journal fun j => { j with notices := j.notices ++ notices }

theorem printLine (line : String) : Plain (Run.printLine line) :=
  journal fun j => { j with printed := j.printed.push line }

/-! ## The store -/

theorem onStore (call : Update Store α) : Plain (Run.onStore call) := by
  refine bind store fun s => ?_
  split
  · exact bind (setStore _) fun _ => pure _
  · exact bind (setStore _) fun _ => fail _ (Failure.ofCeiling_ofStore _)

/-! ## Names and references -/

theorem frames : Plain Run.frames :=
  bind get fun s => env (fun e => pure (s.frame :: e.outer)) fun _ _ _ => rfl

theorem enclosing : Plain Run.enclosing := by
  refine env (fun e => ?_) fun _ _ _ => rfl
  split
  · exact bind get fun s => pure _
  · exact pure _

theorem binding (name : String) (frames : List Frame) (shown : List Value) :
    Plain (Run.binding name frames shown) := by
  unfold Run.binding
  split
  · exact pure _
  · exact complain _ _ _

theorem backRef (name : String) (frames : List Frame) (shown : List Value) :
    Plain (Run.backRef name frames shown) := by
  unfold Run.backRef
  split
  · split
    · exact pure _
    · exact fail _ rfl
  · exact binding _ _ _

theorem attrOf (path : String) : Plain (Run.attrOf path) := by
  unfold Run.attrOf
  dsimp only
  refine bind store fun s => ?_
  split
  · exact pure _
  · refine policy (f := fun strict => if strict then Run.fail _ else Pure.pure _)
      (fun strict => ?_) fun _ _ _ _ h => ?_
    · cases strict with
      | true => exact fail _ rfl
      | false => exact pure _
    · cases h

theorem resolve (name : String) : Plain (Run.resolve name) := by
  unfold Run.resolve
  refine bind frames fun frames => bind items fun items => ?_
  split
  · exact pure _
  · split
    · exact pure _
    · exact complain _ _ _

end Plain

end Run

end Machine

end EntityBase
