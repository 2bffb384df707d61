import FlatRecord.Shape.Datum

namespace FlatRecord

/-- An integer type of 8 to 64 bits. -/
structure IntType where
  signed : Bool
  bits : Nat
deriving DecidableEq

namespace IntType

def name (t : IntType) : String := (if t.signed then "i" else "u") ++ toString t.bits

def holds (t : IntType) (n : Int) : Bool :=
  if t.signed then decide (-(twoTo (t.bits - 1) : Int) ≤ n ∧ n < twoTo (t.bits - 1))
  else decide (0 ≤ n ∧ n < twoTo t.bits)

end IntType

/-- How the type of a fixed number of items is called. -/
inductive TupleForm where
  | plain
  | array
  | named (name : String)
  | ofVariant (enumeration variant : String)
deriving DecidableEq

/-- How the type of named fields is called. -/
inductive FieldsForm where
  | named (name : String)
  | ofVariant (enumeration variant : String)
deriving DecidableEq

/-- A named part of a structure with the type of its content. -/
structure Field (T : Type) where
  name : String
  type : T
  /-- What the field holds where it is missing. -/
  fallback : Option Datum := none
  /-- Whether the field is written only when it is not empty. -/
  omitEmpty : Bool := false

/-- A named alternative, with the type of its content if it has one. -/
structure Variant (T : Type) where
  name : String
  content : Option T := none

/-- A type whose data must already have it. -/
inductive PlainShape where
  | bool
  | int (type : IntType)
  | float
  | text
  | list (item : PlainShape)

/-- A type that data can be read as. -/
inductive Shape where
  | bool
  | int (type : IntType)
  /-- An integer of 128 bits. -/
  | wideInt (signed : Bool)
  | float
  /-- A number of the 32-bit binary format. -/
  | single
  | char
  | text
  | unit
  | unitNamed (name : String)
  | any
  | option (content : Shape)
  /-- A type of its own that is written as its content. -/
  | wrapped (content : Shape)
  | list (item : Shape)
  | tuple (form : TupleForm) (items : List Shape)
  | map (key item : Shape)
  /-- Named fields; a closed structure has no others. -/
  | fields (form : FieldsForm) (closed : Bool) (fields : List (Field Shape))
  /-- Alternatives that are told apart by their names. -/
  | variants (name : String) (variants : List (Variant Shape))
  /-- Alternatives that are tried in order. -/
  | firstOf (name : String) (options : List PlainShape)

namespace Shape

instance : Inhabited Shape := ⟨any⟩

/-- A type that contains itself, taken apart to the given depth. -/
def unfold (step : Shape → Shape) : Nat → Shape
  | 0 => .firstOf "" []
  | n + 1 => step (unfold step n)

/-- What a missing field of this type holds, where nothing else is said. A type of its own is not
optional, whatever its content is. -/
def whenMissing? : Shape → Option Datum
  | .option _ => some .absent
  | _ => none

end Shape

end FlatRecord
