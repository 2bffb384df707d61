import FlatRecord.Binary64.Basic
import FlatRecord.KeyMap
import FlatRecord.Kind

namespace FlatRecord

/-- A value of a record. The entries of an object stand in key order. -/
inductive Value where
  | null
  | bool (b : Bool)
  | int (n : Int64)
  | float (x : Binary64)
  | string (s : String)
  | array (items : List Value)
  | object (entries : List (String × Value))

namespace Value

instance : Inhabited Value := ⟨null⟩

def isNull : Value → Bool
  | .null => true
  | _ => false

def isNumber : Value → Bool
  | .int _ => true
  | .float _ => true
  | _ => false

def string? : Value → Option String
  | .string s => some s
  | _ => none

def bool? : Value → Option Bool
  | .bool b => some b
  | _ => none

def int? : Value → Option Int64
  | .int n => some n
  | _ => none

def float? : Value → Option Binary64
  | .float x => some x
  | _ => none

def items? : Value → Option (List Value)
  | .array items => some items
  | _ => none

def entries? : Value → Option (List (String × Value))
  | .object entries => some entries
  | _ => none

def kind : Value → Kind
  | .null => .null
  | .bool _ => .bool
  | .int _ => .int
  | .float _ => .float
  | .string _ => .string
  | .array _ => .array
  | .object _ => .map

/-- The object with the given bindings; of repeated keys the last wins. -/
def ofEntries (bindings : List (String × Value)) : Value :=
  .object (Entries.ofList bindings)

mutual

/-- Equality of kind and content, in which floats are compared as numbers: zeros of both signs
are equal and NaN differs from itself. -/
def same : Value → Value → Bool
  | .null, .null => true
  | .bool a, .bool b => a == b
  | .int a, .int b => a == b
  | .float x, .float y => x.numEq y
  | .string s, .string t => s == t
  | .array xs, .array ys => sameItems xs ys
  | .object es, .object fs => sameEntries es fs
  | _, _ => false
termination_by structural v => v

def sameItems : List Value → List Value → Bool
  | [], [] => true
  | x :: xs, y :: ys => x.same y && sameItems xs ys
  | _, _ => false
termination_by structural xs => xs

def sameEntries : List (String × Value) → List (String × Value) → Bool
  | [], [] => true
  | (j, x) :: es, (k, y) :: fs => j == k && x.same y && sameEntries es fs
  | _, _ => false
termination_by structural es => es

end

end Value

/-- Native data that has a form as a value. -/
class ToValue (α : Type) where
  toValue : α → Value

namespace ToValue

instance : ToValue Value := ⟨id⟩
instance : ToValue Bool := ⟨.bool⟩
instance : ToValue Int64 := ⟨.int⟩
instance : ToValue Int32 := ⟨fun n => .int n.toInt64⟩
instance : ToValue UInt32 := ⟨fun n => .int (Int64.ofNat n.toNat)⟩
instance : ToValue Binary64 := ⟨.float⟩
instance : ToValue String := ⟨.string⟩

variable {α : Type} [ToValue α]

instance : ToValue (List α) := ⟨fun xs => .array (xs.map toValue)⟩
instance : ToValue (Option α) := ⟨fun x => (x.map toValue).getD .null⟩
instance : ToValue (KeyMap α) := ⟨fun m => .object (m.mapValues fun _ => toValue).entries⟩

/-- The object of the given pairs; of repeated keys the last wins. -/
def ofPairs (pairs : List (String × α)) : Value :=
  .ofEntries (pairs.map fun p => (p.1, toValue p.2))

end ToValue

end FlatRecord
