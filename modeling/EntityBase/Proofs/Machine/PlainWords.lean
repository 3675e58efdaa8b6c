import EntityBase.Machine.Program
import EntityBase.Proofs.Machine.Plain
import EntityBase.Proofs.Registry

/-!
# Plain words — every native word that runs no list

Words that move items about, words on numbers, order and truth, words on
collections, words of the store and of select programs, and the words by which a
host reaches the stack are sequences of plain steps, and so is taking a token as a
literal.
-/

namespace EntityBase.Machine

open Run.Plain

/-! ## Items, numbers and collections -/

theorem plain_sizeOf (v : Value) : (sizeOf v).Plain := by
  unfold sizeOf
  split
  · exact pure _
  · exact pure _
  · exact pure _
  · exact bind store fun s => pure _
  · exact invalid _

theorem plain_runShuffle : (w : ShuffleWord) → (runShuffle w).Plain
  | .drop => bind pop fun _ => pure _
  | .last => bind popList fun _ => push _
  | .dup => bind pop fun v => bind (push v) fun _ => push v
  | .swap => bind pop fun b => bind pop fun a => bind (push b) fun _ => push a
  | .rot =>
    bind pop fun c => bind pop fun b => bind pop fun a => bind (push b) fun _ =>
      bind (push c) fun _ => push a
  | .over =>
    bind pop fun b => bind pop fun a => bind (push a) fun _ => bind (push b) fun _ => push a
  | .clear => modifyItems fun _ => []
  | .gather => modifyItems fun items => [.list items.reverse]
  | .size => bind pop fun v => bind (plain_sizeOf v) fun _ => push _

theorem plain_runArithmetic (op : ArithmeticOp) : (runArithmetic op).Plain := by
  refine bind popScalar fun left => bind popScalar fun right => ?_
  split
  · exact push _
  · exact invalid _

theorem plain_runOrder (holds : Ordering → Bool) : (runOrder holds).Plain := by
  refine bind pop fun left => bind pop fun right => ?_
  split
  · exact push _
  · exact invalid _

theorem plain_runBinary (f : Value → Value → Bool) : (runBinary f).Plain :=
  bind pop fun _ => bind pop fun _ => push _

theorem plain_runLogic (w : LogicWord) : (runLogic w).Plain := by
  cases w with
  | arithmetic op => exact plain_runArithmetic op
  | equal | unequal | and | or => exact plain_runBinary _
  | less | lessEqual | greater | greaterEqual => exact plain_runOrder _
  | not => exact bind pop fun v => push _

theorem plain_runCollection (w : CollectionWord) : (runCollection w).Plain := by
  cases w with
  | push => exact bind pop fun v => bind popList fun items => push _
  | concat => exact bind popList fun b => bind popList fun a => push _
  | concatText => exact bind popScalar fun b => bind popScalar fun a => push _
  | getIndex => exact bind popInteger fun n => bind popList fun items => push _
  | getKey => exact bind popName fun key => bind popMap fun fields => push _
  | getField => exact bind popName fun key => bind popComponent fun c => push _
  | setIndex =>
    refine bind pop fun v => bind popInteger fun n => bind popList fun items => ?_
    split
    · exact push _
    · exact invalid _
  | setKey => exact bind pop fun v => bind popName fun key => bind popMap fun fields => push _
  | setField => exact bind pop fun v => bind popName fun key => bind popComponent fun c => push _
  | keys | values =>
    refine bind pop fun v => ?_
    split
    · exact push _
    · exact push _
    · exact invalid _
  | algebra op =>
    refine bind pop fun b => bind pop fun a => ?_
    split
    · exact push _
    · exact incompatible _ _
  | noAlgebra => exact bind pop fun b => bind pop fun a => incompatible _ _

/-! ## Words of the store -/

theorem plain_runAdd : runAdd.Plain :=
  bind pop fun _ => bind popEntitySet fun _ => bind store fun _ => bind (ofExcept _) fun _ =>
    bind (notify _) fun _ => bind (onStore _) fun _ => push _

theorem plain_runRemove : runRemove.Plain :=
  bind pop fun _ => bind popEntitySet fun _ => bind store fun _ => bind (ofExcept _) fun _ =>
    bind (notify _) fun _ => bind (notify _) fun _ => bind (setStore _) fun _ => push _

theorem plain_attachAll (e : Entity) (values : List Value) : (attachAll e values).Plain := by
  induction values generalizing e with
  | nil => exact pure e
  | cons v rest ih =>
    cases v with
    | component c => exact ih (e.attach c)
    | _ => exact invalid _

theorem resolve_of_strict {parts : MaskParts} {store : Store} {mask : Bitfield}
    (h : parts.resolve store true = .ok mask) : parts.resolve store false = .ok mask := by
  unfold MaskParts.resolve at h ⊢
  cases hstrict : store.resolve true parts.idents with
  | ok b =>
    rw [hstrict] at h
    rw [show store.resolve false parts.idents = .ok b from Registry.resolve_of_strict hstrict]
    exact h
  | error e =>
    rw [hstrict] at h
    cases h

theorem plain_runBuildBitfield : runBuildBitfield.Plain := by
  refine bind pop fun v => bind (ofExcept _) fun parts => ?_
  split
  · exact push _
  · split
    · exact push _
    · refine bind store fun store => policy
        (f := fun strict => do Run.push (.bitfield (← Run.ofExcept (parts.resolve store strict))))
        (fun strict => bind (ofExcept _) fun b => push _) fun env s x t h => ?_
      -- without strictness the same definitions are found
      cases hstrict : parts.resolve store true with
      | ok b =>
        rw [hstrict] at h
        rw [resolve_of_strict hstrict]
        exact h
      | error e =>
        rw [hstrict] at h
        cases e <;> cases h

theorem plain_runGetComponent : runGetComponent.Plain := by
  refine bind pop fun ident => bind popEntity fun e => ?_
  dsimp only
  split
  · refine bind (pure _) fun d? => ?_
    split
    · exact push _
    · exact push _
  · refine bind store fun s => bind (pure _) fun d? => ?_
    split
    · exact push _
    · exact push _

theorem plain_runStoreWord (w : StoreWord) : (runStoreWord w).Plain := by
  cases w with
  | entitySet => exact bind store fun _ => push _
  | definitions => exact bind popEntitySet fun _ => bind store fun s => push _
  | buildDefinition => exact bind pop fun v => bind (ofExcept _) fun schema => push _
  | buildComponents =>
    refine bind store fun s => bind pop fun v => ?_
    split
    · exact bind (ofExcept _) fun components => push _
    · exact bind (ofExcept _) fun c => push _
  | buildEntity => exact bind pop fun v => bind (ofExcept _) fun e => push _
  | buildBitfield => exact plain_runBuildBitfield
  | buildAttrOfMask => exact bind popName fun pointer => bind popBitfield fun mask => push _
  | buildAttr =>
    exact bind pop fun v => bind (ofExcept _) fun path => bind (attrOf path) fun a => push _
  | add => exact plain_runAdd
  | attach =>
    exact bind pop fun v => bind popEntity fun e => bind (plain_attachAll e _) fun e => push _
  | remove => exact plain_runRemove
  | getEntity =>
    refine bind pop fun target => bind popEntitySet fun _ => bind store fun s => ?_
    split
    · exact push _
    · exact push _
  | getComponent => exact plain_runGetComponent

/-! ## Words of select programs -/

theorem plain_selection : Run.selection.Plain := by
  refine bind get fun s => ?_
  split
  · exact pure _
  · exact invalid _

theorem plain_popFilter? : Run.popFilter?.Plain := by
  refine bind (popIf _) fun v => ?_
  split
  · exact pure _
  · exact pure _

theorem plain_popMask? : Run.popMask?.Plain := by
  refine bind (popIf _) fun v => ?_
  split
  · exact pure _
  · exact pure _

theorem plain_popCandidates? : Run.popCandidates?.Plain := by
  refine takeIf candidates? fun env s => ?_
  unfold Run.popCandidates?
  cases hitems : s.frame.items with
  | nil => simp
  | cons v rest => cases hids : candidates? v <;> simp [hids]

theorem plain_runCompare (op : CompareOp) : (runCompare op).Plain := by
  refine bind pop fun top => bind pop fun below => ?_
  split
  · exact push _
  · exact push _
  · exact incompatible _ _

theorem plain_runJoin (join : Filter Value → Filter Value → Filter Value) :
    (runJoin join).Plain := by
  refine bind plain_popFilter? fun right => bind plain_popFilter? fun left => ?_
  split
  · exact push _
  · exact invalid _

theorem plain_pageCount (v : Value) : (pageCount v).Plain := by
  unfold pageCount
  split
  · split
    · exact pure _
    · exact invalid _
  · exact invalid _

theorem plain_runRead (reader : Reader) : (runRead reader).Plain :=
  bind plain_popMask? fun _ => bind plain_popFilter? fun _ =>
    bind plain_popCandidates? fun _ => bind (select _) fun _ =>
      bind plain_selection fun _ => bind store fun _ => push _

theorem plain_runReadField : runReadField.Plain :=
  bind popAttr fun _ => bind plain_popFilter? fun _ =>
    bind plain_popCandidates? fun _ => bind (select _) fun _ =>
      bind plain_selection fun _ => bind store fun _ => push _

theorem plain_runNarrow : runNarrow.Plain :=
  bind plain_popFilter? fun _ => bind plain_popCandidates? fun _ =>
    bind plain_selection fun _ => bind store fun _ => push _

theorem plain_runOrderBy : runOrderBy.Plain := by
  refine bind (popIf _) fun v => ?_
  -- whichever direction was popped, what follows is the same
  have horder : ∀ direction, (do
      let attr ← Run.popAttr
      Run.select fun sel => { sel with order := some ⟨attr, direction⟩ }).Plain :=
    fun direction => bind popAttr fun attr => select _
  dsimp only
  split
  · split
    · exact bind (pure _) horder
    · exact bind (invalid _) horder
  · exact bind (pure _) horder

theorem plain_runLimit : runLimit.Plain := by
  refine bind pop fun v => ?_
  dsimp only
  split
  · exact bind (plain_pageCount _) fun offset => bind (plain_pageCount _) fun limit =>
      bind (pure _) fun page => select _
  · exact bind (invalid _) fun page => select _
  · exact bind (plain_pageCount _) fun limit => bind (pure _) fun page => select _

theorem plain_runSelectWord (w : SelectWord) : (runSelectWord w).Plain := by
  cases w with
  | compare op => exact plain_runCompare op
  | and => exact plain_runJoin _
  | or => exact plain_runJoin _
  | order => exact plain_runOrderBy
  | limit => exact plain_runLimit
  | count => exact select _
  | read reader => exact plain_runRead reader
  | readField => exact plain_runReadField
  | narrow => exact plain_runNarrow

/-! ## Control, quoted words and hosts -/

section Control

variable {runList : List Value → Run Flow} {runName : String → Run Flow}

/-- The control words that run no list. -/
theorem plain_runControl {w : ControlWord}
    (hw : w = .define ∨ w = .bind ∨ w = .escape ∨ w = .print) : (runControl runList w).Plain := by
  rcases hw with rfl | rfl | rfl | rfl
  · exact bind popName fun name => bind popList fun body => bind (define _ _) fun _ => pure _
  · exact bind popName fun name => bind pop fun v => bind (define _ _) fun _ => pure _
  · exact pure _
  · exact bind pop fun v => bind (printLine _) fun _ => pure _

/-- What a quoted word other than a name stands for. -/
theorem plain_runQuoted {q : QuotedWord} (hq : ∀ name, q ≠ .word name) :
    (runQuoted runName q).Plain := by
  cases q with
  | word name => exact absurd rfl (hq name)
  | ref name =>
    exact next (bind frames fun frames => bind items fun items =>
      bind (binding name frames items) fun v => push v)
  | backRef name =>
    exact next (bind enclosing fun frames => bind items fun items =>
      bind (backRef name frames items) fun v => push v)
  | escaped depth rest =>
    refine next ?_
    split
    · exact push _
    · exact push _
  | attr path => exact next (bind (attrOf path) fun a => push _)

end Control

theorem plain_runHost (w : HostWord) : (runHost w).Plain := by
  cases w with
  | popAny => exact next (bind pop fun v => push v)
  | popScalar => exact next (bind popScalar fun v => push _)
  | popList => exact next (bind popList fun items => push _)
  | popMap => exact next (bind popMap fun fields => push _)
  | popInteger => exact next (bind popInteger fun n => push _)
  | popName => exact next (bind popName fun name => push _)
  | popEntitySet => exact next (bind popEntitySet fun _ => push _)
  | popBitfield => exact next (bind popBitfield fun b => push _)
  | popAttr => exact next (bind popAttr fun a => push _)
  | drain => exact next (modifyItems _)
  | escape => exact pure _
  | eval => exact next (bind pop fun _ => pure _)
  | one => exact next (push _)
  | two => exact next (push _)

/-! ## Literals -/

theorem plain_capture (shown : List Value) (t : Token) (span : Span) :
    (capture shown t span).Plain := by
  cases t with
  | backRef name => exact bind frames fun frames => backRef name frames shown
  | pattern source flags =>
    simp only [capture]
    cases readPattern source flags with
    | ok p => exact pure _
    | error problem => exact fail _ rfl
  | date text =>
    refine env (fun env => ?_) fun _ _ _ => rfl
    cases readDate env.now text with
    | ok d => exact pure _
    | error problem => exact fail _ rfl
  | openBracket | openBrace | closeBracket | closeBrace => exact fail _ rfl
  | _ => exact pure _

end EntityBase.Machine
