import FlatRecord.Binary64.Arithmetic
import FlatRecord.EvalError

namespace FlatRecord

/-- The nearest 64-bit integer to the whole part of a number, with zero for NaN. -/
def Binary64.toInt64 : Binary64 → Int64
  | .nan => 0
  | .infinite negative => if negative then Int64.minValue else Int64.maxValue
  | x => (Value.wholePart? x).getD 0

namespace ArithmeticOp

def operand (op : ArithmeticOp) (v : Value) : Except EvalError Binary64 :=
  v.toFloat.mapError fun _ => .nonNumericOperand op v.text

/-- The result of an operator on two numbers; the remainder is that of the whole parts, with the
sign of the dividend. -/
def onNumbers (op : ArithmeticOp) (x y : Binary64) : Except EvalError Binary64 :=
  match op with
  | .add => .ok (x.add y)
  | .sub => .ok (x.sub y)
  | .mul => .ok (x.mul y)
  | .div => if y.numEq (.zero false) then .error .divisionByZero else .ok (x.div y)
  | .mod =>
    let divisor := y.toInt64.toInt
    if divisor = 0 then .error .moduloByZero
    else .ok (.ofInt (x.toInt64.toInt.tmod divisor))

def apply (op : ArithmeticOp) (left right : Value) : Except EvalError Value := do
  let x ← op.operand left
  let y ← op.operand right
  return .float (← op.onNumbers x y)

end ArithmeticOp

end FlatRecord
