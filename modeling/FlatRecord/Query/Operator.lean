import FlatRecord.Text.Blank

namespace FlatRecord

/-- What a condition asks of its terms. -/
inductive Operator where
  | eq
  | ne
  | gt
  | lt
  | ge
  | le
  | isIn
  | notIn
  | isNull
  | isNotNull
  | like
  | between
  | contains
  | anyOf
deriving DecidableEq

namespace Operator

def name : Operator → String
  | .eq => "=="
  | .ne => "!="
  | .gt => ">"
  | .lt => "<"
  | .ge => ">="
  | .le => "<="
  | .isIn => "IN"
  | .notIn => "NOT_IN"
  | .isNull => "IS_NULL"
  | .isNotNull => "IS_NOT_NULL"
  | .like => "LIKE"
  | .between => "BETWEEN"
  | .contains => "CONTAINS"
  | .anyOf => "ANY_OF"

def isComparison : Operator → Bool
  | .eq | .ne | .gt | .lt | .ge | .le => true
  | _ => false

/-- Names are read without regard to letter case and blanks around them, with a space for each
underscore; `=` and `<>` are second spellings. -/
def ofName? (text : String) : Option Operator :=
  let spaced := Text.upperAscii (Text.trim text)
  let plain := String.ofList (spaced.toList.map fun c => if c = ' ' then '_' else c)
  match plain with
  | "==" | "=" => some .eq
  | "!=" | "<>" => some .ne
  | ">" => some .gt
  | "<" => some .lt
  | ">=" => some .ge
  | "<=" => some .le
  | "IN" => some .isIn
  | "NOT_IN" => some .notIn
  | "IS_NULL" => some .isNull
  | "IS_NOT_NULL" => some .isNotNull
  | "LIKE" => some .like
  | "BETWEEN" => some .between
  | "CONTAINS" => some .contains
  | "ANY_OF" => some .anyOf
  | _ => none

end Operator

inductive ArithmeticOp where
  | add
  | sub
  | mul
  | div
  | mod
deriving DecidableEq

namespace ArithmeticOp

def name : ArithmeticOp → String
  | .add => "+"
  | .sub => "-"
  | .mul => "*"
  | .div => "/"
  | .mod => "%"

/-- Blanks around the symbol are passed over. -/
def ofName? (text : String) : Option ArithmeticOp :=
  match Text.trim text with
  | "+" => some .add
  | "-" => some .sub
  | "*" => some .mul
  | "/" => some .div
  | "%" => some .mod
  | _ => none

end ArithmeticOp

structure UnknownOperator where
  text : String
deriving DecidableEq

def UnknownOperator.message (e : UnknownOperator) : String := "unsupported operator: " ++ e.text

def Operator.read (text : String) : Except UnknownOperator Operator :=
  match Operator.ofName? text with
  | some op => .ok op
  | none => .error ⟨text⟩

/-- The error names the text without the blanks around it. -/
def ArithmeticOp.read (text : String) : Except UnknownOperator ArithmeticOp :=
  match ArithmeticOp.ofName? text with
  | some op => .ok op
  | none => .error ⟨Text.trim text⟩

end FlatRecord
