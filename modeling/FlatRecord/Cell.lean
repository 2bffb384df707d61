import FlatRecord.Value.Compare

namespace FlatRecord

/-- A stored value with the type declared for it. A coerced value is kept until the declared type
changes. -/
structure Cell where
  raw : Value
  declared : Option FieldType := none
  memo : Option Value := none

namespace Cell

def ofValue (raw : Value) : Cell := ⟨raw, none, none⟩

def typed (raw : Value) (declared : Option FieldType) : Cell := ⟨raw, declared, none⟩

/-- Declares another type; what was kept for the same type stays. -/
def declare (c : Cell) (declared : Option FieldType) : Cell :=
  if c.declared = declared then c else ⟨c.raw, declared, none⟩

def isNull (c : Cell) : Bool := c.raw.isNull

/-- The value as its declared type asks for it; one that has no such reading stays as it is. -/
def coerced (raw : Value) (type : FieldType) : Value := (raw.coerce type).toOption.getD raw

/-- The effective value, and the cell that has kept it. -/
def read (c : Cell) : Value × Cell :=
  if c.isNull then (.null, c)
  else match c.declared with
    | some type =>
      if type.isKnown then
        match c.memo with
        | some v => (v, c)
        | none =>
          let v := coerced c.raw type
          (v, { c with memo := some v })
      else (c.raw, c)
    | none => (c.raw, c)

def value (c : Cell) : Value := c.read.1

def startsAndEnds (first last : Char) (s : String) : Bool :=
  s.toList.head? == some first && s.toList.getLast? == some last

/-- The declared kind, or that of the stored value, where the text of an array or object counts
as what it describes. -/
def kind (c : Cell) : Kind :=
  match c.declared with
  | some type => type.kind
  | none =>
    match c.raw with
    | .string s =>
      if startsAndEnds '[' ']' s then .array
      else if startsAndEnds '{' '}' s then .map
      else .string
    | other => other.kind

def toInt64 (c : Cell) : Except ConversionError Int64 := c.value.toInt64

def toFloat (c : Cell) : Except ConversionError Binary64 := c.value.toFloat

def toBool (c : Cell) : Except ConversionError Bool := c.value.toBool

def text (c : Cell) : String := c.value.text

def compare (op : Operator) (c d : Cell) : Except EvalError Bool := Value.compare op c.value d.value

def equal (c d : Cell) : Bool := c.value.equal d.value

end Cell

end FlatRecord
