import FlatRecord.EvalError
import FlatRecord.KeyMap
import FlatRecord.Text.Case

namespace FlatRecord

/-- A function that a term may call, applied to resolved arguments. -/
abbrev Function := List Value → Except EvalError Value

inductive Builtin where
  | upper
  | lower
  | len
deriving DecidableEq

namespace Builtin

def name : Builtin → String
  | .upper => "upper"
  | .lower => "lower"
  | .len => "len"

/-- Names are found in any letter case. -/
def ofName? (name : String) : Option Builtin :=
  match Text.lowerAscii name with
  | "upper" => some .upper
  | "lower" => some .lower
  | "len" => some .len
  | _ => none

/-- The number of items or of characters as an integer value. -/
def countValue (n : Nat) : Value := .int (Value.saturate n)

/-- The length of an array, also of one stored as its JSON text, or of a text. -/
def length : Value → Except EvalError Value
  | .null => .ok (countValue 0)
  | .array items => .ok (countValue items.length)
  | .string s =>
    match (Value.string s).elements? with
    | some items => .ok (countValue items.length)
    | none => .ok (countValue s.toList.length)
  | other => .error (.invalidArgument "len" (.noLength other.kind))

/-- Changes the letter case of a value's text; null stays null. -/
def recase (change : String → String) (v : Value) : Value :=
  if v.isNull then .null else .string (change v.text)

def apply (b : Builtin) : Function
  | [arg] =>
    match b with
    | .upper => .ok (recase Text.upper arg)
    | .lower => .ok (recase Text.lower arg)
    | .len => length arg
  | args => .error (.invalidArgument b.name (.count args.length))

end Builtin

structure Registry where
  functions : KeyMap Function := .empty

namespace Registry

def register (r : Registry) (name : String) (f : Function) : Registry :=
  ⟨r.functions.insert name f⟩

def remove (r : Registry) (name : String) : Registry := ⟨r.functions.erase name⟩

def get? (r : Registry) (name : String) : Option Function := r.functions.find? name

def contains (r : Registry) (name : String) : Bool := r.functions.contains name

def size (r : Registry) : Nat := r.functions.size

def isEmpty (r : Registry) : Bool := r.functions.isEmpty

/-- A user's function comes before a built-in one of the same name. -/
def call (r : Registry) (name : String) : Function := fun args =>
  match r.get? name with
  | some f => f args
  | none =>
    match Builtin.ofName? name with
    | some b => b.apply args
    | none => .error (.unknownFunction name)

/-- The names of the user's functions, for display. -/
def describe (r : Registry) : String :=
  "FunctionRegistry \x7b functions: [" ++
    String.intercalate ", " (r.functions.keys.map Text.quoted) ++ "] \x7d"

end Registry

end FlatRecord
