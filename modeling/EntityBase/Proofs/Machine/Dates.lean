import EntityBase.Machine.Program
import EntityBase.Proofs.Instant.Text
import EntityBase.Proofs.Machine.Integers
import EntityBase.Proofs.Value.Data
import EntityBase.Proofs.Value.Equality

/-!
# Comparing dates — a stored date and the date itself

A date is stored as its text, and a leaf of a filter reads the text again before it compares
in full. The text stops at the millisecond. So a leaf takes a stored date for the start of
its millisecond, where the words of comparison take it for what it is; on a date of a whole
millisecond the two agree, and only such a date equals itself once it is stored
(`stored_dates_compare`).
-/

namespace EntityBase

open Instant

variable {t a b : Instant} {op : CompareOp}

/-! ## Dates of the language -/

/-- Whether a date is one that the language can hold: what a date literal stands for, which
may be the present moment. -/
def Held (t : Instant) : Prop := ∃ now text, now.Valid ∧ Machine.readDate now text = .ok t

theorem Held.valid (h : Held t) : t.Valid := by
  obtain ⟨now, text, hnow, hread⟩ := h
  unfold Machine.readDate at hread
  split at hread
  · cases hread
    exact hnow
  · split at hread
    · rename_i hparse
      cases hread
      exact valid_of_parse? hparse
    · cases hread

/-! ## Leaves and words -/

/-- A stored date is read down to the millisecond. -/
theorem fieldInstant?_toJson (h : t.Valid) (hyear : t.CommonYear) :
    fieldInstant? (Value.instant t).toJson = some t.cutToMillis := by
  rw [Value.toJson, fieldInstant?, parse?_millisText h hyear]

/-- **A stored date and a date.** -/
theorem compareField_toJson (h : a.Valid) (hyear : a.CommonYear) :
    compareField (Value.instant a).toJson op (.instant b) = op.holds (a.cutToMillis.order b) := by
  unfold compareField
  rw [fieldInstant?_toJson h hyear]

namespace CompareOp

/-- What a leaf of a filter finds where the date `a` is stored and compared with the date
`b`: that all such entities pass, or that none does. -/
def LeafGives (op : CompareOp) (a b : Instant) (passes : Bool) : Prop :=
  ∀ (s : Store) (d : DefId) (pointer : String) (ids : List EntityId), s.Aligned →
    (∀ e ∈ ids, s.fieldBy? (.of d pointer) e d = some (Value.instant a).toJson) →
    (Filter.compare op (.of d pointer) (.instant b)).apply s ids = if passes then ids else []

/-- What the word of a comparison leaves of two dates, of which the top one is the left
operand. -/
def WordGives (op : CompareOp) (a b : Instant) (holds : Bool) : Prop :=
  ∀ (runList : List Value → Machine.Run Machine.Flow) (env : Machine.Env) (s : Machine.State)
    (rest : List Value), Machine.Unhidden op.text env s →
    s.frame.items = .instant a :: .instant b :: rest →
    Machine.runName runList op.text env s = (.ok .next, s.withItems (.bool holds :: rest))

theorem leafGives (h : a.Valid) (hyear : a.CommonYear) (op : CompareOp) (b : Instant) :
    op.LeafGives a b (op.holds (a.cutToMillis.order b)) := by
  intro s d pointer ids hs hstored
  have hpasses : ∀ e ∈ ids, s.passes op (.of d pointer) (.instant b) e
      = op.holds (a.cutToMillis.order b) := fun e he =>
    (passes_of hs (hstored e he)).trans (compareField_toJson h hyear)
  refine (List.filter_congr hpasses).trans ?_
  cases op.holds (a.cutToMillis.order b) with
  | true => exact List.filter_true ids
  | false => exact List.filter_false ids

theorem wordGives (op : CompareOp) (a b : Instant) : op.WordGives a b (op.holds (a.order b)) := by
  intro runList env s rest hname hitems
  have hsame : (Value.instant a).equals (.instant b) = (a.order b == .eq) := by
    unfold Value.equals Value.same
    rfl
  have hequals : (Value.instant a).equals (.instant b) = (a.order b).isEq := by
    rw [hsame]
    cases a.order b <;> rfl
  exact Machine.runName_comparison op hequals rfl hname hitems

/-- What a comparison makes of two that are equal. -/
theorem holds_eq (op : CompareOp) : op.holds .eq = (op == .eq || op == .le || op == .ge) := by
  cases op <;> rfl

end CompareOp

/-- **Stored dates compare by the start of their millisecond.** Let a date have a year of
four digits. Where it is stored, the leaves of filters compare the start of its millisecond
in its place; the words of comparison compare the date itself. So a date of a whole
millisecond equals itself once it is stored, and in comparisons with any date the leaves
agree with the words. Any other date differs from itself once it is stored. -/
theorem stored_dates_compare (ha : Held a) (hyear : a.CommonYear) :
    (∀ (op : CompareOp) (b : Instant), op.LeafGives a b (op.holds (a.cutToMillis.order b)) ∧
      op.WordGives a b (op.holds (a.order b))) ∧
    (a.WholeMillis →
      (∀ op : CompareOp, op.LeafGives a a (op == .eq || op == .le || op == .ge)) ∧
      ∀ (op : CompareOp) (b : Instant), ∃ r, op.LeafGives a b r ∧ op.WordGives a b r) ∧
    (¬ a.WholeMillis → CompareOp.eq.LeafGives a a false ∧ CompareOp.eq.WordGives a a true) := by
  have hleaf := CompareOp.leafGives ha.valid hyear
  refine ⟨fun op b => ⟨hleaf op b, op.wordGives a b⟩, fun hwhole => ?_, fun hpart => ⟨?_, ?_⟩⟩
  · have hcut : a.cutToMillis = a := cutToMillis_eq_self_iff.2 hwhole
    rw [hcut] at hleaf
    refine ⟨fun op => ?_, fun op b => ⟨_, hleaf op b, op.wordGives a b⟩⟩
    have hself := hleaf op a
    rwa [order_eq_iff.2 rfl, op.holds_eq] at hself
  · have hne : a.cutToMillis.order a ≠ .eq := fun h => hpart
      (cutToMillis_eq_self_iff.1 (order_eq_iff.1 h))
    have hfalse : CompareOp.eq.holds (a.cutToMillis.order a) = false := by
      cases h : a.cutToMillis.order a with
      | eq => exact absurd h hne
      | lt => rfl
      | gt => rfl
    exact hfalse ▸ hleaf .eq a
  · have hword := CompareOp.eq.wordGives a a
    rwa [order_eq_iff.2 rfl] at hword

/-- A leap second that is given by the clock of another zone. Stored, it equals itself, and
is less than what is a nanosecond behind it. -/
theorem stored_dates_compare_leap_second :
    let now : Instant := ⟨2024, 1, 1, 0, 0, 0, 0⟩
    let a : Instant := ⟨2016, 12, 31, 23, 59, 60, 500000000⟩
    let b : Instant := ⟨2016, 12, 31, 23, 59, 60, 500000001⟩
    let calls : List Store.Call :=
      [.register { uri := "/note", properties := [{ name := "due", type := .datetime }] },
       .add (.component { entity := 1, defId := 1
                          attributes := Table.ofList [("due", (Value.instant a).toJson)] }) {}]
    let store := (Store.empty true).afterAll calls
    Machine.readDate now "2017-01-01T05:29:60.5+05:30" = .ok a ∧ Held a ∧ a.CommonYear ∧
      a.WholeMillis ∧ (Filter.compare .eq (.of 1 "due") (.instant a)).apply store [1] = [1] ∧
      (Filter.compare .lt (.of 1 "due") (.instant b)).apply store [1] = [1] := by
  intro now a b calls store
  have hread : Machine.readDate now "2017-01-01T05:29:60.5+05:30" = .ok a := by decide +kernel
  have hheld : Held a := ⟨now, _, ⟨by decide, by decide, by decide⟩, hread⟩
  have hyear : a.CommonYear := ⟨by decide, by decide⟩
  have hwhole : a.WholeMillis := ⟨500, rfl⟩
  have hs : store.Consistent :=
    Store.kept_consistent.afterAll (fun _ _ => trivial) (Store.consistent_empty true)
  have hstored : ∀ e ∈ [1], store.fieldBy? (.of 1 "due") e 1 = some (Value.instant a).toJson := by
    have hname : ((store.fieldBy? (.of 1 "due") 1 1).bind fun j => (Value.ofJson j).name?)
        = some a.millisText := by decide +kernel
    obtain ⟨j, hj, hname⟩ := Option.bind_eq_some_iff.1 hname
    rw [Value.eq_string_of_name?_ofJson hname] at hj
    rw [Value.toJson]
    exact List.forall_mem_singleton.2 hj
  obtain ⟨hcompare, hself, -⟩ := stored_dates_compare hheld hyear
  have hequal := (hself hwhole).1 .eq store 1 "due" [1] hs.toAligned hstored
  have hless := (hcompare .lt b).1 store 1 "due" [1] hs.toAligned hstored
  have hbefore : CompareOp.lt.holds (a.cutToMillis.order b) = true := by decide
  exact ⟨hread, hheld, hyear, hwhole, hequal, hless.trans (if_pos hbefore)⟩

/-- **A stored date may differ from itself**: one with a part of a millisecond is no longer
equal to itself in a filter, and is less than itself. -/
theorem stored_date_differs_from_itself :
    let now : Instant := ⟨2024, 1, 1, 0, 0, 0, 0⟩
    let a : Instant := ⟨2021, 3, 1, 10, 0, 0, 100000⟩
    let calls : List Store.Call :=
      [.register { uri := "/note", properties := [{ name := "due", type := .datetime }] },
       .add (.component { entity := 1, defId := 1
                          attributes := Table.ofList [("due", (Value.instant a).toJson)] }) {}]
    let found (op : CompareOp) : List EntityId :=
      (Filter.compare op (.of 1 "due") (.instant a)).apply ((Store.empty true).afterAll calls) [1]
    Machine.readDate now "2021-03-01T10:00:00.0001Z" = .ok a ∧
      (Value.instant a).equals (.instant a) = true ∧
      found .eq = [] ∧ found .ne = [1] ∧ found .lt = [1] ∧ found .ge = [] := by
  decide +kernel

end EntityBase
