import Mathlib.Data.List.Forall2
import FlatRecord.Proofs.Value.ArrayText
import FlatRecord.Proofs.Value.Comparison
import FlatRecord.Query.Arithmetic

namespace FlatRecord

namespace Value

theorem isNull_of_isNumber {n : Value} (number : n.isNumber = true) : n.isNull = false := by
  cases n with
  | null => cases number
  | _ => rfl

theorem isContainer_of_isNumber {n : Value} (number : n.isNumber = true) :
    n.isContainer = false := by
  cases n with
  | array items => cases number
  | object entries => cases number
  | _ => rfl

section Number

variable {n : Value} (number : n.isNumber = true)
include number

/-- Scalars of the same text and the same numeric reading are equal to the same values. -/
theorem equal_text (x : Value) : (string n.text).equal x = n.equal x := by
  have scalar := isContainer_of_isNumber number
  rw [Bool.eq_iff_iff, equal_iff_of_scalar rfl rfl,
    equal_iff_of_scalar (isNull_of_isNumber number) scalar, toFloat_text_of_isNumber number, text]

theorem trim_text : Text.trim n.text = n.text := by
  cases n with
  | int n => exact trim_text_int n
  | float x => exact trim_text_float x
  | _ => cases number

/-- The text of a number is no stored array, since it would not be read as this number then. -/
theorem elements?_text : (string n.text).elements? = none := by
  rw [elements?, if_neg]
  intro first
  have read := toFloat_text_of_isNumber number
  rw [toFloat, trim_text number, Numeral.readBinary?_of_bracket first] at read
  cases n with
  | int n => cases read
  | float x => cases read
  | _ => cases number

theorem candidates_text : (string n.text).candidates = [.string n.text] := by
  rw [candidates, elements?_text number]
  rfl

theorem candidates_of_isNumber : n.candidates = [n] := by
  cases n with
  | int n => rfl
  | float x => rfl
  | _ => cases number

end Number

/-- A value, and what is found in its place where numbers are kept as their texts. -/
inductive Spelled : Value → Value → Prop
  | same (v : Value) : Spelled v v
  | number {n : Value} : n.isNumber = true → Spelled n (.string n.text)

namespace Spelled

section One

variable {v w : Value} (spelled : Spelled v w)
include spelled

theorem text_eq : w.text = v.text := by
  cases spelled <;> rfl

theorem toFloat_eq : w.toFloat = v.toFloat := by
  cases spelled with
  | same => rfl
  | number number => exact toFloat_text_of_isNumber number

theorem equal_left (x : Value) : w.equal x = v.equal x := by
  cases spelled with
  | same => rfl
  | number number => exact equal_text number x

theorem candidates : List.Forall₂ Spelled v.candidates w.candidates := by
  cases spelled with
  | same => exact List.forall₂_same.mpr fun x _ => .same x
  | number number =>
    rw [candidates_text number, candidates_of_isNumber number]
    exact .cons (.number number) .nil

end One

section Two

variable {v v' w w' : Value} (left : Spelled v v') (right : Spelled w w')
include left right

theorem equal_eq : v'.equal w' = v.equal w := by
  rw [left.equal_left, equal_comm, right.equal_left, equal_comm]

theorem order?_eq : order? v' w' = order? v w := by
  rw [order?, order?, bothNumeric?, bothNumeric?, left.toFloat_eq, right.toFloat_eq, left.text_eq,
    right.text_eq]

theorem compare_eq (op : Operator) : compare op v' w' = compare op v w := by
  cases op <;> simp only [compare, left.equal_eq right, left.order?_eq right]

theorem apply_eq (op : ArithmeticOp) : op.apply v' w' = op.apply v w := by
  rw [ArithmeticOp.apply, ArithmeticOp.apply, ArithmeticOp.operand, ArithmeticOp.operand,
    ArithmeticOp.operand, ArithmeticOp.operand, left.toFloat_eq, right.toFloat_eq, left.text_eq,
    right.text_eq]

end Two

theorem any_equal_eq {v v' : Value} (left : Spelled v v') {vs ws : List Value}
    (candidates : List.Forall₂ Spelled vs ws) :
    (ws.any fun w => v'.equal w) = vs.any fun w => v.equal w := by
  induction candidates with
  | nil => rfl
  | cons head _ ih => rw [List.any_cons, List.any_cons, ih, left.equal_eq head]

end Spelled

end Value

end FlatRecord
