import EntityBase.Proofs.Store.Placement
import EntityBase.Proofs.Store.Regular
import Mathlib.Order.Interval.Finset.Nat

/-!
# Refusals — when an addition fails

An addition is refused for one of three reasons (`Refused`): one of its
schemas is refused, one of its components is by a definition that is not
registered once its schemas are, or it needs more fresh ids than there are.
`add_fails_iff` says that there is no other reason, and that none of the
three is ever passed over.
-/

namespace EntityBase.Store

variable {s : Store} {shadowing : Bool} {r : Registry} {schemas : List Schema}

/-- **Registering schemas in order fails if and only if** one of them is refused
by the registry that those before it lead to. -/
theorem registerAll_fails_iff (hr : r.Sound) :
    (∃ e, registerAll shadowing r schemas = .error e) ↔
      ∃ before schema rest r', schemas = before ++ schema :: rest ∧
        registerAll shadowing r before = .ok r' ∧ r'.Refuses schema shadowing := by
  induction schemas generalizing r with
  | nil => simp
  | cons first others ih =>
    rw [registerAll_cons]
    cases hreg : r.register first shadowing with
    | error e =>
      refine iff_of_true ⟨e, rfl⟩ ⟨[], first, others, r, rfl, rfl, ?_⟩
      exact hr.register_fails_iff.1 ⟨e, hreg⟩
    | ok p =>
      obtain ⟨r₁, outcome⟩ := p
      have haccepted : ¬ r.Refuses first shadowing := fun hrefuses => by
        obtain ⟨e, he⟩ := hr.register_fails_iff.2 hrefuses
        rw [hreg] at he
        cases he
      dsimp only
      rw [ih (hr.register hreg)]
      constructor
      · rintro ⟨before, schema, rest, r', rfl, hbefore, hrefuses⟩
        refine ⟨first :: before, schema, rest, r', rfl, ?_, hrefuses⟩
        rw [registerAll_cons, hreg]
        exact hbefore
      · rintro ⟨before, schema, rest, r', hsplit, hbefore, hrefuses⟩
        -- the schema that is refused is not the first one
        cases before with
        | nil =>
          obtain ⟨rfl, rfl⟩ := List.cons.inj hsplit
          obtain rfl := Except.ok.inj hbefore
          exact absurd hrefuses haccepted
        | cons _ before =>
          obtain ⟨rfl, rfl⟩ := List.cons.inj hsplit
          rw [registerAll_cons, hreg] at hbefore
          exact ⟨before, schema, rest, r', rfl, hbefore, hrefuses⟩

/-! ## The ids that are left -/

/-- The ids that a batch can be given: not below the next free one, and past
every id that the batch names itself. -/
def freshIds (s : Store) (b : Batch) : Finset EntityId :=
  (Finset.range (maxEntityId + 1)).filter fun id =>
    (∃ next ∈ s.nextEntity, next ≤ id) ∧ explicitMax b.entities b.components < id

theorem mem_freshIds_iff {b : Batch} {id : Nat} :
    id ∈ s.freshIds b ↔ s.firstFresh b ≤ id ∧ id < idBound := by
  have hlt : explicitMax b.entities b.components < id ↔
      explicitMax b.entities b.components + 1 ≤ id := Iff.rfl
  simp only [freshIds, Finset.mem_filter, Finset.mem_range, hlt, firstFresh, idBound,
    Nat.max_le]
  cases hnext : s.nextEntity with
  | none =>
    refine iff_of_false (by simp) fun h => ?_
    rw [Option.getD_none] at h
    omega
  | some next =>
    simp only [Option.mem_def, Option.some.injEq, exists_eq_left', Option.getD_some]
    exact and_comm

/-- Fresh ids are the numbers from the first one on. -/
theorem card_freshIds (s : Store) (b : Batch) :
    (s.freshIds b).card = idBound - s.firstFresh b := by
  have hinterval : s.freshIds b = Finset.Ico (s.firstFresh b) idBound := by
    ext id
    rw [mem_freshIds_iff, Finset.mem_Ico]
  rw [hinterval, Nat.card_Ico]

/-! ## Additions -/

/-- Why a batch is refused. -/
inductive Refused (s : Store) (b : Batch) : Prop
  /-- A schema is refused once those before it are registered. -/
  | schema (before rest : List Schema) (schema : Schema) (r : Registry)
      (split : b.schemas = before ++ schema :: rest)
      (registered : registerAll s.shadowing s.registry before = .ok r)
      (refuses : r.Refuses schema s.shadowing)
  /-- A component is by a definition that is not registered, not even with the
  schemas of the batch. -/
  | component (r : Registry) (c : Component)
      (registered : registerAll s.shadowing s.registry b.schemas = .ok r)
      (mem : c ∈ b.parts) (unknown : r.byId? c.defId = none)
  /-- There are not as many fresh ids as the batch needs. -/
  | ids (few : (s.freshIds b).card < b.freshCount)

/-- **An addition fails if and only if** its batch is refused. -/
theorem add_fails_iff (hr : s.registry.Sound) (hcap : Capped s.nextEntity) (item : Item)
    (options : CallOptions) :
    (∃ e t, (addInPlace item options).run s = .error e t) ↔ s.Refused item.batch := by
  rw [addInPlace_eq]
  cases hreg : registerAll s.shadowing s.registry item.batch.schemas with
  | error e =>
    obtain ⟨before, schema, rest, r, hsplit, hbefore, hrefuses⟩ :=
      (registerAll_fails_iff hr).1 ⟨e, hreg⟩
    exact iff_of_true ⟨e, s, rfl⟩ (.schema before rest schema r hsplit hbefore hrefuses)
  | ok r =>
    have hplans : (∃ p, s.plan r item.batch = .ok p) ↔
        (∀ c ∈ item.batch.parts, (r.byId? c.defId).isSome) ∧
          item.batch.freshCount ≤ (s.freshIds item.batch).card := by
      simp only [plan_eq_ok_iff hcap, card_freshIds, exists_and_left, exists_eq, and_true]
    dsimp only
    cases hplan : s.plan r item.batch with
    | ok p =>
      obtain ⟨hparts, hroom⟩ := hplans.1 ⟨p, hplan⟩
      refine iff_of_false (fun ⟨e, t, he⟩ => by cases he) fun hrefused => ?_
      cases hrefused with
      | schema before rest schema r' hsplit hbefore hrefuses =>
        obtain ⟨e, he⟩ :=
          (registerAll_fails_iff hr).2 ⟨before, schema, rest, r', hsplit, hbefore, hrefuses⟩
        rw [hreg] at he
        cases he
      | component r' c hreg' hmem hunknown =>
        obtain rfl := Except.ok.inj (hreg.symm.trans hreg')
        have hknown := hparts c hmem
        rw [hunknown] at hknown
        cases hknown
      | ids hfew => omega
    | error e =>
      refine iff_of_true ⟨e, s, rfl⟩ ?_
      by_cases hparts : ∀ c ∈ item.batch.parts, (r.byId? c.defId).isSome = true
      · refine .ids (Nat.lt_of_not_le fun hroom => ?_)
        obtain ⟨p, hp⟩ := hplans.2 ⟨hparts, hroom⟩
        rw [hplan] at hp
        cases hp
      · obtain ⟨c, hc⟩ := Classical.not_forall.1 hparts
        obtain ⟨hmem, hunknown⟩ := Classical.not_imp.1 hc
        exact .component r c hreg hmem (by simpa using hunknown)

end EntityBase.Store
