import FlatRecord.EvalError

namespace FlatRecord

namespace Value

def bothNumeric? (a b : Value) : Option (Binary64 × Binary64) :=
  match a.toFloat, b.toFloat with
  | .ok x, .ok y => some (x, y)
  | _, _ => none

/-- Null equals only null. Other values are equal if their contents, their numeric readings or
their texts are. -/
def equal (a b : Value) : Bool :=
  if a.isNull || b.isNull then a.isNull && b.isNull
  else a.same b || (match bothNumeric? a b with
    | some (x, y) => x.numEq y
    | none => false) || a.text == b.text

/-- Values with numeric readings are ordered as numbers, where NaN has no place, and all others
as texts. -/
def order? (a b : Value) : Option Ordering :=
  match bothNumeric? a b with
  | some (x, y) => x.compare? y
  | none => some (if a.text < b.text then .lt else if a.text = b.text then .eq else .gt)

/-- Compares two values; values without an order satisfy none of the four order operators. -/
def compare (op : Operator) (a b : Value) : Except EvalError Bool :=
  match op with
  | .eq => .ok (a.equal b)
  | .ne => .ok (!a.equal b)
  | .gt => .ok (order? a b == some .gt)
  | .lt => .ok (order? a b == some .lt)
  | .ge => .ok (order? a b == some .gt || order? a b == some .eq)
  | .le => .ok (order? a b == some .lt || order? a b == some .eq)
  | op => .error (.unsupportedOperator op)

/-- Whether a value holds another: among the items of an array, within a text, or as a key. -/
def holds (container item : Value) : Except EvalError Bool :=
  match container with
  | .null => .ok false
  | .array items => .ok (items.any fun v => v.equal item)
  | .string s =>
    match container.elements? with
    | some items => .ok (items.any fun v => v.equal item)
    | none => .ok (Text.isInfix item.text.toList s.toList)
  | .object entries => .ok (entries.lookup item.text).isSome
  | other => .error (.malformedOperand .contains (.notContainer other.kind))

/-- The candidates that a value stands for: the items of an array, nothing for null, or itself. -/
def candidates (v : Value) : List Value :=
  match v.elements? with
  | some items => items
  | none => if v.isNull then [] else [v]

end Value

end FlatRecord
