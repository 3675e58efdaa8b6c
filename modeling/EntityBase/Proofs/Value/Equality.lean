import EntityBase.Proofs.Json.Content

/-!
# Equality of values — what it keeps of an equivalence

The equality of the language is put together from tests on numbers, texts, records and
lists. All of them are symmetric and transitive (`Coherent`), the whole of it too
(`Value.coherent_same`): integers and doubles are identified by what they are as doubles, and
lists and maps part by part. The one thing that is missing to an equivalence is that a
double that is no number, and what has such a double in it, does not equal itself.
-/

namespace EntityBase

/-- Whether a test of equality is symmetric and transitive. It need not hold of a value and
itself. -/
structure Coherent {α : Type} (same : α → α → Bool) : Prop where
  symm {a b : α} : same a b = true → same b a = true
  trans {a b c : α} : same a b = true → same b c = true → same a c = true

namespace Coherent

variable {α β : Type} {p q : α → α → Bool}

/-- Being one and the same is symmetric and transitive. -/
theorem of_eq (h : ∀ {a b}, p a b = true ↔ a = b) : Coherent p where
  symm hab := h.2 (h.1 hab).symm
  trans hab hbc := h.2 ((h.1 hab).trans (h.1 hbc))

theorem beq [BEq α] [LawfulBEq α] : Coherent fun a b : α => a == b := of_eq beq_iff_eq

theorem and (hp : Coherent p) (hq : Coherent q) : Coherent fun a b => p a b && q a b where
  symm h := by
    rw [Bool.and_eq_true] at h ⊢
    exact ⟨hp.symm h.1, hq.symm h.2⟩
  trans h h' := by
    rw [Bool.and_eq_true] at h h' ⊢
    exact ⟨hp.trans h.1 h'.1, hq.trans h.2 h'.2⟩

/-- A test of one part. -/
theorem on (hp : Coherent p) (part : β → α) : Coherent fun a b => p (part a) (part b) where
  symm := hp.symm
  trans := hp.trans

theorem rel_symm (hp : Coherent p) {x y : Option α} :
    Option.Rel (fun a b => p a b = true) x y → Option.Rel (fun a b => p a b = true) y x
  | .some hab => .some (hp.symm hab)
  | .none => .none

theorem rel_trans (hp : Coherent p) {x y z : Option α} :
    Option.Rel (fun a b => p a b = true) x y → Option.Rel (fun a b => p a b = true) y z →
    Option.Rel (fun a b => p a b = true) x z
  | .some hab, .some hbc => .some (hp.trans hab hbc)
  | .none, .none => .none

/-- A test of a part that may be missing. -/
theorem option {r : β → β → Bool} (hp : Coherent p) (part : β → Option α)
    (hpart : ∀ {a b}, r a b = true ↔ Option.Rel (fun a b => p a b = true) (part a) (part b)) :
    Coherent r where
  symm h := hpart.2 (hp.rel_symm (hpart.1 h))
  trans h h' := hpart.2 (hp.rel_trans (hpart.1 h) (hpart.1 h'))

/-- A test of the items one by one. -/
theorem items {ps : List α → List α → Bool} (hp : Coherent p)
    (hitems : ∀ {as bs}, ps as bs = true ↔ List.Forall₂ (fun a b => p a b = true) as bs) :
    Coherent ps where
  symm h := hitems.2 ((hitems.1 h).flip.imp fun _ _ => hp.symm)
  trans {as bs cs} h h' := by
    have hleft := hitems.1 h
    have hright := hitems.1 h'
    refine hitems.2 ?_
    clear h h'
    induction hleft generalizing cs with
    | nil => exact hright
    | cons hab _ ih =>
      cases hright with
      | cons hbc hrest => exact .cons (hp.trans hab hbc) (ih hrest)

end Coherent

/-! ## Numbers and stored data -/

theorem Binary64.coherent_beq : Coherent fun x y : Float => x == y where
  symm {x y} h := by
    obtain ⟨hx, hy⟩ := isNumber_of_beq h
    rw [beq_eq_rank_isEq hx hy, Ordering.isEq_iff_eq_eq, compare_eq_iff_eq] at h
    rw [beq_eq_rank_isEq hy hx, Ordering.isEq_iff_eq_eq, compare_eq_iff_eq, h]
  trans {x y z} hxy hyz := by
    obtain ⟨hx, hy⟩ := isNumber_of_beq hxy
    obtain ⟨-, hz⟩ := isNumber_of_beq hyz
    rw [beq_eq_rank_isEq hx hy, Ordering.isEq_iff_eq_eq, compare_eq_iff_eq] at hxy
    rw [beq_eq_rank_isEq hy hz, Ordering.isEq_iff_eq_eq, compare_eq_iff_eq] at hyz
    rw [beq_eq_rank_isEq hx hz, Ordering.isEq_iff_eq_eq, compare_eq_iff_eq, hxy, hyz]

namespace Json

mutual

theorem same_symm : (a b : Json) → a.same b = true → b.same a = true
  | a, .float y, h => by
    obtain ⟨x, rfl, hxy⟩ := exists_float_of_same h
    exact Binary64.coherent_beq.symm hxy
  | a, .array bs, h => by
    obtain ⟨as, rfl, hitems⟩ := exists_array_of_same h
    exact sameItems_symm as bs hitems
  | a, .object bs, h => by
    obtain ⟨as, rfl, hfields⟩ := exists_object_of_same h
    exact sameFields_symm as bs hfields
  | _, .null, h => same_of_simple .null trivial rfl h
  | _, .bool b, h => same_of_simple (.bool b) trivial (Simple.same_self trivial) h
  | _, .int n, h => same_of_simple (.int n) trivial (Simple.same_self trivial) h
  | _, .string s, h => same_of_simple (.string s) trivial (Simple.same_self trivial) h

theorem sameItems_symm : (as bs : List Json) → sameItems as bs = true → sameItems bs as = true
  | [], [], _ => rfl
  | [], _ :: _, h => nomatch h
  | _ :: _, [], h => nomatch h
  | a :: as, b :: bs, h => by
    rw [sameItems, Bool.and_eq_true] at h ⊢
    exact ⟨same_symm a b h.1, sameItems_symm as bs h.2⟩

theorem sameFields_symm : (as bs : List (String × Json)) → sameFields as bs = true →
    sameFields bs as = true
  | [], [], _ => rfl
  | [], _ :: _, h => nomatch h
  | _ :: _, [], h => nomatch h
  | (j, a) :: as, (k, b) :: bs, h => by
    simp only [sameFields, Bool.and_eq_true, beq_iff_eq] at h ⊢
    exact ⟨⟨h.1.1.symm, same_symm a b h.1.2⟩, sameFields_symm as bs h.2⟩

end

theorem coherent_same : Coherent same where
  symm := same_symm _ _
  trans hab hbc := same_of_same_same _ _ _ hab (same_symm _ _ hbc)

theorem coherent_sameFields : Coherent sameFields where
  symm := sameFields_symm _ _
  trans hab hbc := sameFields_of_same_same _ _ _ hab (sameFields_symm _ _ hbc)

end Json

/-! ## Things of the store -/

theorem Bitfield.coherent_same : Coherent Bitfield.same where
  symm {a b} h := by
    unfold Bitfield.same at h ⊢
    cases ha : a.all <;> cases hb : b.all <;> simp_all
  trans {a b c} h h' := by
    unfold Bitfield.same at h h' ⊢
    cases ha : a.all <;> cases hb : b.all <;> cases hc : c.all <;> simp_all

theorem Property.coherent_same : Coherent Property.same := by
  refine ((Coherent.beq.on Property.name).and (Coherent.beq.on Property.type)).and
    (Json.coherent_same.option Property.default fun {p q} => ?_)
  cases p.default <;> cases q.default <;> simp

theorem Property.coherent_sameAll : Coherent Property.sameAll := by
  refine Property.coherent_same.items fun {as bs} => ?_
  induction as generalizing bs with
  | nil => cases bs <;> simp [sameAll]
  | cons a as ih => cases bs <;> simp [sameAll, ih]

theorem Definition.coherent_same : Coherent Definition.same :=
  ((((Coherent.beq.on Definition.id).and (Coherent.beq.on Definition.uri)).and
    (Coherent.beq.on Definition.name)).and (Property.coherent_sameAll.on Definition.properties)).and
    (Coherent.beq.on Definition.hash)

theorem Component.coherent_same : Coherent Component.same :=
  (Coherent.beq.on Component.entity).and ((Coherent.beq.on Component.defId).and
    (Json.coherent_sameFields.on fun c : Component => c.attributes.entries))

theorem Entity.coherent_sameComponents : Coherent Entity.sameComponents := by
  refine ((Coherent.beq.on Prod.fst).and (Component.coherent_same.on Prod.snd)).items
    fun {as bs} => ?_
  induction as generalizing bs with
  | nil => cases bs <;> simp [sameComponents]
  | cons a as ih => cases bs <;> simp [sameComponents, ih]

theorem Entity.coherent_same : Coherent Entity.same :=
  ((Coherent.beq.on Entity.id).and (Bitfield.coherent_same.on Entity.shape)).and
    (Entity.coherent_sameComponents.on fun e : Entity => e.components.entries)

theorem Attribute.coherent_same : Coherent Attribute.same :=
  (Bitfield.coherent_same.on Attribute.mask).and (Coherent.beq.on Attribute.pointer)

theorem Pattern.coherent_same : Coherent Pattern.same := Coherent.beq.on Pattern.source

theorem Instant.order_eq_iff {a b : Instant} : a.order b = .eq ↔ a = b := by
  obtain ⟨_, _, _, _, _, _, _⟩ := a
  obtain ⟨_, _, _, _, _, _, _⟩ := b
  simp [order, Ordering.then_eq_eq]

theorem Instant.coherent_order : Coherent fun a b : Instant => a.order b == .eq :=
  .of_eq (beq_iff_eq.trans order_eq_iff)

/-! ## Values -/

theorem Scalar.coherent_same : Coherent Scalar.same where
  symm {a b} h := by
    unfold same at h ⊢
    cases ha : a.toFloat? <;> cases hb : b.toFloat? <;> simp only [ha, hb] at h ⊢
    · simp_all
    · simp_all
    · simp_all
    · exact Binary64.coherent_beq.symm h
  trans {a b c} h h' := by
    unfold same at h h' ⊢
    cases ha : a.toFloat? <;> cases hb : b.toFloat? <;> cases hc : c.toFloat? <;>
      simp only [ha, hb, hc] at h h' ⊢ <;> try simp_all
    exact Binary64.coherent_beq.trans h h'

/-- **Every scalar equals itself** but a double that is no number. -/
theorem Scalar.same_self_iff {x : Scalar} :
    x.same x = true ↔ ∀ d, x = .float d → Binary64.IsNumber d := by
  have hbeq {d : Float} (hd : Binary64.IsNumber d) : (d == d) = true :=
    (Binary64.beq_eq_rank_isEq hd hd).trans (by simp)
  cases x with
  | int n => exact iff_of_true (hbeq (Binary64.isNumber_ofInt n)) fun _ h => nomatch h
  | float d =>
    refine ⟨fun h e he => ?_, fun h => hbeq (h d rfl)⟩
    cases he
    exact (Binary64.isNumber_of_beq h).1
  | _ => exact iff_of_true (by simp [same, toFloat?]) fun _ h => nomatch h

namespace Value

/-- Values of one kind whose contents are the same. -/
inductive Alike : Value → Value → Prop
  | scalar {a b : Scalar} (h : a.same b = true) : Alike (.scalar a) (.scalar b)
  | list {as bs : List Value} (h : sameItems as bs = true) : Alike (.list as) (.list bs)
  | map {as bs : List (String × Value)} (h : sameFields as bs = true) : Alike (.map as) (.map bs)
  | entity {a b : Entity} (h : a.same b = true) : Alike (.entity a) (.entity b)
  | entitySet : Alike .entitySet .entitySet
  | component {a b : Component} (h : a.same b = true) : Alike (.component a) (.component b)
  | definition {a b : Definition} (h : a.same b = true) : Alike (.definition a) (.definition b)
  | attr {a b : Attribute} (h : a.same b = true) : Alike (.attr a) (.attr b)
  | bitfield {a b : Bitfield} (h : a.same b = true) : Alike (.bitfield a) (.bitfield b)
  | pattern {a b : Pattern} (h : a.same b = true) : Alike (.pattern a) (.pattern b)
  | instant {a b : Instant} (h : (a.order b == .eq) = true) : Alike (.instant a) (.instant b)
  | filter {a b : Filter Value} (h : sameFilter a b = true) : Alike (.filter a) (.filter b)

/-- Values are the same only within a kind. -/
theorem alike_of_same {a b : Value} (h : a.same b = true) : Alike a b := by
  unfold same at h
  split at h
  · exact .scalar h
  · exact .list h
  · exact .map h
  · exact .entity h
  · exact .entitySet
  · exact .component h
  · exact .definition h
  · exact .attr h
  · exact .bitfield h
  · exact .pattern h
  · exact .instant h
  · exact .filter h
  · cases h

theorem same_of_alike {a b : Value} (h : Alike a b) : a.same b = true := by
  cases h <;> rw [same] <;> assumption

/-- Filters of one shape whose parts are the same. -/
inductive AlikeFilter : Filter Value → Filter Value → Prop
  | and {a b c d : Filter Value} (left : sameFilter a c = true) (right : sameFilter b d = true) :
      AlikeFilter (.and a b) (.and c d)
  | or {a b c d : Filter Value} (left : sameFilter a c = true) (right : sameFilter b d = true) :
      AlikeFilter (.or a b) (.or c d)
  | compare {p : CompareOp} {a b : Attribute} {v w : Value} (attr : a.same b = true)
      (value : v.same w = true) : AlikeFilter (.compare p a v) (.compare p b w)

theorem sameFilter_iff {f g : Filter Value} : sameFilter f g = true ↔ AlikeFilter f g := by
  constructor
  · intro h
    unfold sameFilter at h
    split at h
    · rw [Bool.and_eq_true] at h
      exact .and h.1 h.2
    · rw [Bool.and_eq_true] at h
      exact .or h.1 h.2
    · simp only [Bool.and_eq_true, beq_iff_eq] at h
      obtain ⟨⟨rfl, hattr⟩, hvalue⟩ := h
      exact .compare hattr hvalue
    · cases h
  · rintro (⟨hl, hr⟩ | ⟨hl, hr⟩ | ⟨ha, hv⟩) <;> simp [sameFilter, *]

/-- Lists are the same item by item. -/
theorem sameItems_iff {as bs : List Value} :
    sameItems as bs = true ↔ List.Forall₂ (fun a b => a.same b = true) as bs := by
  induction as generalizing bs with
  | nil => cases bs <;> simp [sameItems]
  | cons a as ih => cases bs <;> simp [sameItems, ih]

/-- Maps are the same entry by entry. -/
theorem sameFields_iff {as bs : List (String × Value)} :
    sameFields as bs = true ↔
      List.Forall₂ (fun a b => a.1 = b.1 ∧ a.2.same b.2 = true) as bs := by
  induction as generalizing bs with
  | nil => cases bs <;> simp [sameFields]
  | cons a as ih =>
    cases bs with
    | nil => simp [sameFields]
    | cons b bs =>
      obtain ⟨⟨j, a⟩, ⟨k, b⟩⟩ := a, b
      simp [sameFields, ih, and_assoc]

mutual

theorem same_symm : (a b : Value) → Alike a b → b.same a = true
  | _, _, .scalar h => same_of_alike (.scalar (Scalar.coherent_same.symm h))
  | .list as, .list bs, .list h => same_of_alike (.list (sameItems_symm as bs (sameItems_iff.1 h)))
  | .map as, .map bs, .map h => same_of_alike (.map (sameFields_symm as bs (sameFields_iff.1 h)))
  | _, _, .entity h => same_of_alike (.entity (Entity.coherent_same.symm h))
  | _, _, .entitySet => same_of_alike .entitySet
  | _, _, .component h => same_of_alike (.component (Component.coherent_same.symm h))
  | _, _, .definition h => same_of_alike (.definition (Definition.coherent_same.symm h))
  | _, _, .attr h => same_of_alike (.attr (Attribute.coherent_same.symm h))
  | _, _, .bitfield h => same_of_alike (.bitfield (Bitfield.coherent_same.symm h))
  | _, _, .pattern h => same_of_alike (.pattern (Pattern.coherent_same.symm h))
  | _, _, .instant h => same_of_alike (.instant (Instant.coherent_order.symm h))
  | .filter f, .filter g, .filter h =>
    same_of_alike (.filter (sameFilter_symm f g (sameFilter_iff.1 h)))

theorem sameItems_symm : (as bs : List Value) →
    List.Forall₂ (fun a b => a.same b = true) as bs → sameItems bs as = true
  | _, _, .nil => by rw [sameItems]
  | a :: as, b :: bs, .cons hab hrest => by
    rw [sameItems, same_symm a b (alike_of_same hab), sameItems_symm as bs hrest, Bool.and_true]

theorem sameFields_symm : (as bs : List (String × Value)) →
    List.Forall₂ (fun a b => a.1 = b.1 ∧ a.2.same b.2 = true) as bs → sameFields bs as = true
  | _, _, .nil => by rw [sameFields]
  | (_, a) :: as, (_, b) :: bs, .cons hab hrest => by
    obtain ⟨rfl, hab⟩ := hab
    rw [sameFields, same_symm a b (alike_of_same hab), sameFields_symm as bs hrest]
    simp

theorem sameFilter_symm : (f g : Filter Value) → AlikeFilter f g → sameFilter g f = true
  | .and a b, .and c d, .and hl hr =>
    sameFilter_iff.2 (.and (sameFilter_symm a c (sameFilter_iff.1 hl))
      (sameFilter_symm b d (sameFilter_iff.1 hr)))
  | .or a b, .or c d, .or hl hr =>
    sameFilter_iff.2 (.or (sameFilter_symm a c (sameFilter_iff.1 hl))
      (sameFilter_symm b d (sameFilter_iff.1 hr)))
  | .compare _ _ v, .compare _ _ w, .compare ha hv =>
    sameFilter_iff.2 (.compare (Attribute.coherent_same.symm ha)
      (same_symm v w (alike_of_same hv)))

end

mutual

theorem same_trans : (a b c : Value) → Alike a b → Alike b c → a.same c = true
  | _, _, _, .scalar h, .scalar h' => same_of_alike (.scalar (Scalar.coherent_same.trans h h'))
  | .list as, .list bs, .list cs, .list h, .list h' =>
    same_of_alike (.list (sameItems_trans as bs cs (sameItems_iff.1 h) (sameItems_iff.1 h')))
  | .map as, .map bs, .map cs, .map h, .map h' =>
    same_of_alike (.map (sameFields_trans as bs cs (sameFields_iff.1 h) (sameFields_iff.1 h')))
  | _, _, _, .entity h, .entity h' => same_of_alike (.entity (Entity.coherent_same.trans h h'))
  | _, _, _, .entitySet, .entitySet => same_of_alike .entitySet
  | _, _, _, .component h, .component h' =>
    same_of_alike (.component (Component.coherent_same.trans h h'))
  | _, _, _, .definition h, .definition h' =>
    same_of_alike (.definition (Definition.coherent_same.trans h h'))
  | _, _, _, .attr h, .attr h' => same_of_alike (.attr (Attribute.coherent_same.trans h h'))
  | _, _, _, .bitfield h, .bitfield h' =>
    same_of_alike (.bitfield (Bitfield.coherent_same.trans h h'))
  | _, _, _, .pattern h, .pattern h' => same_of_alike (.pattern (Pattern.coherent_same.trans h h'))
  | _, _, _, .instant h, .instant h' =>
    same_of_alike (.instant (Instant.coherent_order.trans h h'))
  | .filter f, .filter g, .filter k, .filter h, .filter h' =>
    same_of_alike (.filter (sameFilter_trans f g k (sameFilter_iff.1 h) (sameFilter_iff.1 h')))

theorem sameItems_trans : (as bs cs : List Value) →
    List.Forall₂ (fun a b => a.same b = true) as bs →
    List.Forall₂ (fun a b => a.same b = true) bs cs → sameItems as cs = true
  | _, _, _, .nil, .nil => by rw [sameItems]
  | a :: as, b :: bs, c :: cs, .cons hab hrest, .cons hbc hrest' => by
    rw [sameItems, same_trans a b c (alike_of_same hab) (alike_of_same hbc),
      sameItems_trans as bs cs hrest hrest', Bool.and_true]

theorem sameFields_trans : (as bs cs : List (String × Value)) →
    List.Forall₂ (fun a b => a.1 = b.1 ∧ a.2.same b.2 = true) as bs →
    List.Forall₂ (fun a b => a.1 = b.1 ∧ a.2.same b.2 = true) bs cs → sameFields as cs = true
  | _, _, _, .nil, .nil => by rw [sameFields]
  | (_, a) :: as, (_, b) :: bs, (_, c) :: cs, .cons hab hrest, .cons hbc hrest' => by
    obtain ⟨rfl, hab⟩ := hab
    obtain ⟨rfl, hbc⟩ := hbc
    rw [sameFields, same_trans a b c (alike_of_same hab) (alike_of_same hbc),
      sameFields_trans as bs cs hrest hrest']
    simp

theorem sameFilter_trans : (f g k : Filter Value) → AlikeFilter f g → AlikeFilter g k →
    sameFilter f k = true
  | .and a b, .and c d, _, .and hl hr, h' => by
    cases h' with
    | and hl' hr' =>
      exact sameFilter_iff.2 (.and
        (sameFilter_trans a c _ (sameFilter_iff.1 hl) (sameFilter_iff.1 hl'))
        (sameFilter_trans b d _ (sameFilter_iff.1 hr) (sameFilter_iff.1 hr')))
  | .or a b, .or c d, _, .or hl hr, h' => by
    cases h' with
    | or hl' hr' =>
      exact sameFilter_iff.2 (.or
        (sameFilter_trans a c _ (sameFilter_iff.1 hl) (sameFilter_iff.1 hl'))
        (sameFilter_trans b d _ (sameFilter_iff.1 hr) (sameFilter_iff.1 hr')))
  | .compare _ _ v, .compare _ _ w, _, .compare ha hv, h' => by
    cases h' with
    | compare ha' hv' =>
      exact sameFilter_iff.2 (.compare (Attribute.coherent_same.trans ha ha')
        (same_trans v w _ (alike_of_same hv) (alike_of_same hv')))

end

/-- **Equality of values is symmetric and transitive.** -/
theorem coherent_same : Coherent same where
  symm h := same_symm _ _ (alike_of_same h)
  trans h h' := same_trans _ _ _ (alike_of_same h) (alike_of_same h')

end Value

end EntityBase
