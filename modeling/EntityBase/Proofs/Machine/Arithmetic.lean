import EntityBase.Proofs.Machine.Integers

/-!
# Arithmetic on integers — exact or refused

What an operation on two integers should make of them is said here by equations and by
divisibility, without a word of the operation itself (`ArithmeticOp.Exact`): there is at most
one such integer. The words leave it where 64 bits hold it and complain of an overflow where
they do not; by zero nothing is divided. One refusal is too many: the least integer has the
remainder `0` by `-1`, and the word complains of an overflow there
(`integers_exact_or_refused`).
-/

namespace EntityBase

open Binary64

variable {op : ArithmeticOp} {a b r : Int}

theorem fitsInt64_iff : fitsInt64 r ↔ minInt64 ≤ r ∧ r ≤ maxInt64 := by
  simp [fitsInt64]

/-- The remainder of a division that is cut off toward zero: it lies a multiple of the
divisor away from the dividend, is smaller than the divisor, and has the sign of the
dividend. -/
structure TruncatedRemainder (a b r : Int) : Prop where
  dvd : b ∣ a - r
  small : r.natAbs < b.natAbs
  sign : 0 ≤ a * r

namespace TruncatedRemainder

theorem ne_zero (h : TruncatedRemainder a b r) : b ≠ 0 :=
  Int.natAbs_pos.1 (Nat.zero_lt_of_lt h.small)

/-- **There is one such remainder.** -/
theorem iff_tmod (hb : b ≠ 0) : TruncatedRemainder a b r ↔ r = a.tmod b := by
  refine ⟨fun h => ?_, ?_⟩
  · obtain ⟨q, hq⟩ := h.dvd
    have hsum : r + b * q = a := by omega
    have hsmall := h.small
    rcases lt_trichotomy a 0 with ha | rfl | ha
    · have hr : r ≤ 0 := nonpos_of_mul_nonneg_right h.sign ha
      exact ((Int.tdiv_tmod_unique' ha.le hb).2 ⟨hsum, by omega, hr⟩).2.symm
    · have hdvd : b ∣ r := by simpa using h.dvd
      simpa using Int.eq_zero_of_dvd_of_natAbs_lt_natAbs hdvd hsmall
    · have hr : 0 ≤ r := nonneg_of_mul_nonneg_right h.sign ha
      exact ((Int.tdiv_tmod_unique ha.le hb).2 ⟨hsum, hr, by omega⟩).2.symm
  · rintro rfl
    refine ⟨Int.dvd_self_sub_tmod, ?_, ?_⟩
    · rw [Int.natAbs_tmod]
      exact Nat.mod_lt _ (Int.natAbs_pos.2 hb)
    · rcases le_total 0 a with ha | ha
      · exact mul_nonneg ha (Int.tmod_nonneg b ha)
      · have hneg : 0 ≤ (-a).tmod b := Int.tmod_nonneg b (by omega)
        rw [Int.neg_tmod] at hneg
        exact mul_nonneg_of_nonpos_of_nonpos ha (by omega)

/-- A remainder of an integer of 64 bits has 64 bits. -/
theorem fits (h : TruncatedRemainder a b r) (ha : fitsInt64 a) : fitsInt64 r := by
  have hr : r = a.tmod b := (iff_tmod h.ne_zero).1 h
  have hle : r.natAbs ≤ a.natAbs := by
    rw [hr, Int.natAbs_tmod]
    exact Nat.mod_le _ _
  -- of the two ends of the range, the sign leaves the one on the side of the dividend
  have hsign : 0 ≤ a ∧ 0 ≤ r ∨ a ≤ 0 ∧ r ≤ 0 := by
    rcases lt_trichotomy a 0 with h0 | rfl | h0
    · exact .inr ⟨h0.le, nonpos_of_mul_nonneg_right h.sign h0⟩
    · omega
    · exact .inl ⟨h0.le, nonneg_of_mul_nonneg_right h.sign h0⟩
  rw [fitsInt64_iff] at ha ⊢
  unfold minInt64 maxInt64 at ha ⊢
  omega

end TruncatedRemainder

namespace ArithmeticOp

/-- The word of an operation. -/
def text : ArithmeticOp → String
  | .add => "+"
  | .sub => "-"
  | .mul => "*"
  | .div => "/"
  | .rem => "%"

/-- Whether an integer is what an operation makes of two integers. -/
def Exact (op : ArithmeticOp) (a b r : Int) : Prop :=
  match op with
  | .add => r = a + b
  | .sub => r = a - b
  | .mul => r = a * b
  | .div => b ≠ 0 ∧ b * r = a
  | .rem => TruncatedRemainder a b r

/-- The one pair of operands whose remainder is an integer of 64 bits and is not computed:
the quotient that goes with it is none. -/
def Missed (op : ArithmeticOp) (a b : Int) : Prop := op = .rem ∧ a = minInt64 ∧ b = -1

/-- **Where there is an exact integer, it is the only one.** There is one unless a zero
divides or a quotient leaves a remainder. -/
theorem existsUnique_exact (hzero : op.divides = true → b ≠ 0) (hdvd : op = .div → b ∣ a) :
    ∃! r, op.Exact a b r := by
  cases op with
  | add => exact ⟨a + b, rfl, fun _ h => h⟩
  | sub => exact ⟨a - b, rfl, fun _ h => h⟩
  | mul => exact ⟨a * b, rfl, fun _ h => h⟩
  | div =>
    obtain ⟨q, rfl⟩ := hdvd rfl
    exact ⟨q, ⟨hzero rfl, rfl⟩, fun r h => Int.eq_of_mul_eq_mul_left (hzero rfl) h.2⟩
  | rem =>
    exact ⟨a.tmod b, (TruncatedRemainder.iff_tmod (hzero rfl)).2 rfl,
      fun r h => (TruncatedRemainder.iff_tmod (hzero rfl)).1 h⟩

/-- **The operation computes the exact integer** and drops it if 64 bits do not hold it. -/
theorem onInts?_of_exact (h : op.Exact a b r) (hmissed : ¬ op.Missed a b) :
    op.onInts? a b = fitting? r := by
  cases op with
  | add => exact congrArg fitting? h.symm
  | sub => exact congrArg fitting? h.symm
  | mul => exact congrArg fitting? h.symm
  | div =>
    obtain ⟨hb, rfl⟩ := h
    rw [onInts?, Int.mul_tmod_right, if_pos rfl, Int.mul_tdiv_cancel_left r hb]
    split
    · -- the quotient of the least integer by `-1` lies beyond the greatest one
      rename_i hleast
      obtain ⟨hproduct, rfl⟩ := hleast
      have hr : r = 9223372036854775808 := by
        rw [minInt64] at hproduct
        omega
      rw [hr]
      rfl
    · rfl
  | rem =>
    rw [onInts?, if_neg fun hleast => hmissed ⟨rfl, hleast⟩,
      (TruncatedRemainder.iff_tmod h.ne_zero).1 h]

theorem Exact.ne_zero (h : op.Exact a b r) (hdivides : op.divides = true) : b ≠ 0 := by
  cases op with
  | div => exact h.1
  | rem => exact TruncatedRemainder.ne_zero h
  | _ => cases hdivides

theorem Missed.exact_zero (h : op.Missed a b) : op.Exact a b 0 := by
  obtain ⟨rfl, rfl, rfl⟩ := h
  exact ⟨⟨9223372036854775808, rfl⟩, by decide, by decide⟩

theorem onInts?_missed (h : op.Missed a b) : op.onInts? a b = none := by
  obtain ⟨rfl, rfl, rfl⟩ := h
  rfl

/-- A quotient that is no integer is one of doubles. -/
theorem onInts?_div_of_not_dvd (hdvd : ¬ b ∣ a) :
    ArithmeticOp.div.onInts? a b = some (.float (Float.ofInt a / Float.ofInt b)) := by
  have hleast : ¬ (a = minInt64 ∧ b = -1) := fun h => hdvd (h.2 ▸ ⟨-a, by omega⟩)
  rw [onInts?, if_neg hleast, if_neg fun h => hdvd (Int.dvd_of_tmod_eq_zero h)]

end ArithmeticOp

namespace Machine

variable {env : Env} {s : State} {rest : List Value} {runList : List Value → Run Flow} {x y z : Scalar}

/-- What a run of an operation on the two top items leaves in their place. -/
def Leaves (op : ArithmeticOp) (runList : List Value → Run Flow) (env : Env) (s : State)
    (rest : List Value) (x : Scalar) : Prop :=
  runName runList op.text env s = (.ok .next, s.withItems (.scalar x :: rest))

/-- What a run of an operation complains of once the two top items are taken. -/
def Refuses (op : ArithmeticOp) (runList : List Value → Run Flow) (env : Env) (s : State)
    (rest : List Value) (c : Complaint) : Prop :=
  runName runList op.text env s
    = (.error (.invalidArguments op.text c (snapshot env.limits rest)), s.withItems rest)

/-- A word of arithmetic on two scalars runs the operation, the top one being the left
operand. -/
theorem runName_arithmetic (op : ArithmeticOp) (hname : Unhidden op.text env s)
    (hitems : s.frame.items = .scalar x :: .scalar y :: rest) :
    runName runList op.text env s
      = (runArithmetic op >>= fun _ => pure .next) { env with word := op.text } s := by
  obtain ⟨words, hbuiltin⟩ : ∃ words, Dictionary.builtin op.text
      = Dictionary.word [.scalar, .scalar] (.logic (.arithmetic op)) :: words := by
    cases op <;> exact ⟨_, rfl⟩
  have haccepts : (Dictionary.word [.scalar, .scalar] (.logic (.arithmetic op))).accepts
      s.frame.items = true := by
    rw [hitems]
    rfl
  exact runName_native (fun h => Native.noConfusion h) (find?_of_unhidden hname hbuiltin haccepts)

/-- The operation goes by what it makes of the two top items. -/
theorem runArithmetic_eq (hitems : s.frame.items = .scalar x :: .scalar y :: rest) :
    runArithmetic op env s
      = (match op.apply x y with
        | .ok r => Run.push (.scalar r)
        | .error e => Run.invalid (arithmeticComplaint x y e)) env (s.withItems rest) := by
  have hleft : Run.popScalar env s = (.ok x, s.withItems (.scalar y :: rest)) :=
    popAs_of_read rfl hitems
  exact (Run.bind_ok hleft).trans (Run.bind_ok (x := y) rfl)

theorem leaves_of_apply (hname : Unhidden op.text env s)
    (hitems : s.frame.items = .scalar x :: .scalar y :: rest) (h : op.apply x y = .ok z) :
    Leaves op runList env s rest z := by
  refine (runName_arithmetic op hname hitems).trans (Run.bind_ok (x := ()) ?_)
  rw [runArithmetic_eq hitems, h]
  rfl

theorem refuses_of_apply {e : ArithmeticError} (hname : Unhidden op.text env s)
    (hitems : s.frame.items = .scalar x :: .scalar y :: rest) (h : op.apply x y = .error e) :
    Refuses op runList env s rest (arithmeticComplaint x y e) := by
  refine (runName_arithmetic op hname hitems).trans (Run.bind_error ?_)
  rw [runArithmetic_eq hitems, h]
  rfl

/-- The operation on two integers, of which the right one is not zero under a division. -/
theorem apply_ints (hzero : op.divides = true → b ≠ 0) :
    op.apply (.int a) (.int b) = match op.onInts? a b with
      | some r => .ok r
      | none => .error .overflow :=
  if_neg fun h => hzero h.1 h.2

theorem leaves_of_onInts? (hzero : op.divides = true → b ≠ 0) (hname : Unhidden op.text env s)
    (hitems : s.frame.items = .int a :: .int b :: rest) (h : op.onInts? a b = some z) :
    Leaves op runList env s rest z := by
  refine leaves_of_apply hname hitems ?_
  rw [apply_ints hzero, h]

theorem refuses_of_onInts? (hzero : op.divides = true → b ≠ 0) (hname : Unhidden op.text env s)
    (hitems : s.frame.items = .int a :: .int b :: rest) (h : op.onInts? a b = none) :
    Refuses op runList env s rest .integerOverflow := by
  refine refuses_of_apply (e := .overflow) hname hitems ?_
  rw [apply_ints hzero, h]

/-- **Integer arithmetic is exact or refused.** Let the two top items be integers of 64
bits, the top one being the left operand. Unless a zero divides or a quotient leaves a
remainder, there is one exact integer; the word leaves it if 64 bits hold it and complains of
an overflow if they do not. A remainder has 64 bits always, and still there is one that the
word refuses: that of the least integer by `-1`, which is `0`. By zero nothing is divided, and
a quotient that leaves a remainder is one of doubles. -/
theorem integers_exact_or_refused (op : ArithmeticOp) (ha : fitsInt64 a)
    (hname : Unhidden op.text env s) (hitems : s.frame.items = .int a :: .int b :: rest) :
    ((op.divides = true → b ≠ 0) → (op = .div → b ∣ a) → ∃! r, op.Exact a b r) ∧
    (∀ r, op.Exact a b r → ¬ op.Missed a b →
      if fitsInt64 r then Leaves op runList env s rest (.int r)
      else Refuses op runList env s rest .integerOverflow) ∧
    (∀ r, op = .rem → op.Exact a b r → fitsInt64 r) ∧
    (op.Missed a b → op.Exact a b 0 ∧ Refuses op runList env s rest .integerOverflow) ∧
    (op.divides = true → b = 0 → Refuses op runList env s rest .divisionByZero) ∧
    (op = .div → b ≠ 0 → ¬ b ∣ a →
      Leaves op runList env s rest (.float (Float.ofInt a / Float.ofInt b))) := by
  refine ⟨ArithmeticOp.existsUnique_exact, fun r hr hmissed => ?_, ?_, fun hmissed => ⟨?_, ?_⟩,
    fun hdivides hb => ?_, ?_⟩
  · have honInts := ArithmeticOp.onInts?_of_exact hr hmissed
    unfold ArithmeticOp.fitting? at honInts
    split <;> rename_i hfits
    · exact leaves_of_onInts? hr.ne_zero hname hitems (honInts.trans (if_pos hfits))
    · exact refuses_of_onInts? hr.ne_zero hname hitems (honInts.trans (if_neg hfits))
  · rintro r rfl hr
    exact TruncatedRemainder.fits hr ha
  · exact hmissed.exact_zero
  · exact refuses_of_onInts? hmissed.exact_zero.ne_zero hname hitems
      (ArithmeticOp.onInts?_missed hmissed)
  · exact refuses_of_apply (e := .divisionByZero) hname hitems (if_pos ⟨hdivides, hb⟩)
  · rintro rfl hb hdvd
    exact leaves_of_onInts? (fun _ => hb) hname hitems (ArithmeticOp.onInts?_div_of_not_dvd hdvd)

/-- The quotient of the least integer by `-1` is beyond the greatest one, and the remainder
of `-7` by `2` is `-1`. -/
theorem integers_exact_or_refused_edges :
    let env : Env := { limits := {}, now := default }
    let s (a b : Int) : State := { frame := { items := [.int a, .int b] } }
    let runList : List Value → Run Flow := fun _ => pure .next
    Refuses .div runList env (s minInt64 (-1)) [] .integerOverflow ∧
      Leaves .rem runList env (s (-7) 2) [] (.int (-1)) := by
  intro env s runList
  have hbare : ∀ (op : ArithmeticOp) (a b : Int), Unhidden op.text env (s a b) :=
    fun _ _ _ => unhidden_of_bare rfl rfl
  constructor
  · have hquotient : ArithmeticOp.div.Exact minInt64 (-1) 9223372036854775808 := ⟨by decide, rfl⟩
    obtain ⟨-, hexact, -⟩ := integers_exact_or_refused .div (by decide) (hbare .div minInt64 (-1)) rfl
    exact hexact _ hquotient fun h => ArithmeticOp.noConfusion h.1
  · have hremainder : ArithmeticOp.rem.Exact (-7) 2 (-1) :=
      ⟨⟨-3, rfl⟩, by decide, by decide⟩
    obtain ⟨-, hexact, -⟩ := integers_exact_or_refused .rem (by decide) (hbare .rem (-7) 2) rfl
    exact hexact _ hremainder fun h => absurd h.2.2 (by decide)

/-- **A remainder that has 64 bits is refused**: `0`, which the least integer leaves by
`-1`. -/
theorem least_remainder_is_refused :
    let env : Env := { limits := {}, now := default }
    let s : State := { frame := { items := [.int minInt64, .int (-1)] } }
    TruncatedRemainder minInt64 (-1) 0 ∧ fitsInt64 0 ∧
      Refuses .rem (fun _ => pure .next) env s [] .integerOverflow := by
  intro env s
  have hmissed : ArithmeticOp.rem.Missed minInt64 (-1) := ⟨rfl, rfl, rfl⟩
  exact ⟨hmissed.exact_zero, by decide, refuses_of_onInts? hmissed.exact_zero.ne_zero
    (unhidden_of_bare rfl rfl) rfl (ArithmeticOp.onInts?_missed hmissed)⟩

end Machine

end EntityBase
