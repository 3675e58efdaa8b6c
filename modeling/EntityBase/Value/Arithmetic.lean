import EntityBase.Value.Scalar

/-!
# Arithmetic — numbers of two sorts

Whole numbers have 64 bits. An operation on two of them is exact or is
refused; only a division that leaves a remainder goes over to doubles, as
every operation does that has a double among its operands. The remainder
has the sign of the left operand.
-/

namespace EntityBase

/-- Arithmetic on numbers; addition also joins texts. -/
inductive ArithmeticOp where
  | add
  | sub
  | mul
  | div
  | rem
deriving DecidableEq, Repr

namespace ArithmeticOp

/-- A whole number, if 64 bits hold it. -/
def fitting? (n : Int) : Option Scalar := if Binary64.fitsInt64 n then some (.int n) else none

/-- The operation on two whole numbers, the second one not zero under a
division. The least number has no quotient and no remainder by `-1`. -/
def onInts? (op : ArithmeticOp) (a b : Int) : Option Scalar :=
  match op with
  | .add => fitting? (a + b)
  | .sub => fitting? (a - b)
  | .mul => fitting? (a * b)
  | .div =>
    if a = Binary64.minInt64 ∧ b = -1 then none
    else if a.tmod b = 0 then fitting? (a.tdiv b)
    else some (.float (Float.ofInt a / Float.ofInt b))
  | .rem => if a = Binary64.minInt64 ∧ b = -1 then none else fitting? (a.tmod b)

/-- The operation on two doubles. -/
def onFloats (op : ArithmeticOp) (a b : Float) : Float :=
  match op with
  | .add => a + b
  | .sub => a - b
  | .mul => a * b
  | .div => a / b
  | .rem => Binary64.remainder a b

/-- Whether the operation divides. -/
def divides : ArithmeticOp → Bool
  | .div | .rem => true
  | _ => false

end ArithmeticOp

/-- Why there is no result. -/
inductive ArithmeticError where
  | divisionByZero
  | overflow
  | notNumbers
deriving DecidableEq, Repr

/-- The operation on two scalars. Texts are joined with the right one in
front. -/
def ArithmeticOp.apply (op : ArithmeticOp) (left right : Scalar) :
    Except ArithmeticError Scalar :=
  match left, right with
  | .int a, .int b =>
    if op.divides ∧ b = 0 then .error .divisionByZero
    else
      match op.onInts? a b with
      | some r => .ok r
      | none => .error .overflow
  | .text a, .text b => if op = .add then .ok (.text (b ++ a)) else .error .notNumbers
  | left, right =>
    match left.toFloat?, right.toFloat? with
    | some a, some b => .ok (.float (op.onFloats a b))
    | _, _ => .error .notNumbers

end EntityBase
