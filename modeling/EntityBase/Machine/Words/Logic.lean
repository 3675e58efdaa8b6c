import EntityBase.Machine.Basic

/-!
# Words on numbers, order and truth

The top item is the left operand of a word with two operands, except that
addition joins texts in the order in which they were pushed.
-/

namespace EntityBase.Machine

/-- The complaint about an operation without result. -/
def arithmeticComplaint (left right : Scalar) : ArithmeticError → Complaint
  | .divisionByZero => .divisionByZero
  | .overflow => .integerOverflow
  | .notNumbers => .noArithmetic (Value.scalar left).display (Value.scalar right).display

/-- Arithmetic. -/
def runArithmetic (op : ArithmeticOp) : Run Unit := do
  let left ← Run.popScalar
  let right ← Run.popScalar
  match op.apply left right with
  | .ok r => Run.push (.scalar r)
  | .error e => Run.invalid (arithmeticComplaint left right e)

/-- A comparison of two values that can be ordered. -/
def runOrder (holds : Ordering → Bool) : Run Unit := do
  let left ← Run.pop
  let right ← Run.pop
  match left.order? right with
  | some o => Run.push (.bool (holds o))
  | none => Run.invalid (.noOrder left.kind right.kind)

/-- A truth value made of two values. -/
def runBinary (f : Value → Value → Bool) : Run Unit := do
  let left ← Run.pop
  let right ← Run.pop
  Run.push (.bool (f left right))

/-- What the word does. -/
def runLogic : LogicWord → Run Unit
  | .arithmetic op => runArithmetic op
  | .equal => runBinary Value.equals
  | .unequal => runBinary fun a b => !a.equals b
  | .less => runOrder Ordering.isLT
  | .lessEqual => runOrder Ordering.isLE
  | .greater => runOrder Ordering.isGT
  | .greaterEqual => runOrder Ordering.isGE
  | .and => runBinary fun a b => a.truthy && b.truthy
  | .or => runBinary fun a b => a.truthy || b.truthy
  | .not => do
    let v ← Run.pop
    Run.push (.bool !v.truthy)

end EntityBase.Machine
