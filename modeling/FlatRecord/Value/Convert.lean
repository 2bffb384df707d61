import FlatRecord.Value.Json
import FlatRecord.Text.Quoted

namespace FlatRecord

/-- What a value is read as. -/
inductive Reading where
  | int64
  | float64
  | bool
deriving DecidableEq

def Reading.name : Reading → String
  | .int64 => "int64"
  | .float64 => "float64"
  | .bool => "bool"

inductive ConversionError where
  | null (target : Reading)
  | notNumeric (text : String) (target : Reading)
  | notBool (text : String)
  | unsupported (kind : Kind) (target : Reading)
deriving DecidableEq

def ConversionError.message : ConversionError → String
  | .null target => "cannot convert null to " ++ target.name
  | .notNumeric text target =>
    "cannot convert " ++ Text.quoted text ++ " to " ++ target.name ++ ": not a number"
  | .notBool text => "cannot convert " ++ Text.quoted text ++ " to bool"
  | .unsupported kind target => "cannot convert " ++ kind.name ++ " to " ++ target.name

namespace Value

/-- The text of a value: null is empty, strings are themselves, containers are JSON. -/
def text : Value → String
  | .null => ""
  | .bool b => String.ofList (Json.boolChars b)
  | .int n => String.ofList (Json.intChars n.toInt)
  | .float x => x.toText
  | .string s => s
  | .array items => (Value.array items).jsonText
  | .object entries => (Value.object entries).jsonText

/-- The nearest 64-bit integer to a whole number. -/
def saturate (n : Int) : Int64 :=
  Int64.ofInt (max Int64.minValue.toInt (min n Int64.maxValue.toInt))

/-- The whole part of a finite float, held within the 64-bit integers. -/
def wholePart? (x : Binary64) : Option Int64 := x.truncate?.map saturate

/-- Reads an integer: floats and decimal texts lose their fraction. -/
def toInt64 : Value → Except ConversionError Int64
  | .null => .error (.null .int64)
  | .bool b => .ok (if b then 1 else 0)
  | .int n => .ok n
  | .float x =>
    match wholePart? x with
    | some n => .ok n
    | none => .error (.notNumeric x.toText .int64)
  | .string s =>
    let trimmed := Text.trim s
    match Numeral.readInt64? trimmed with
    | some n => .ok n
    | none =>
      match (Numeral.readBinary? trimmed).bind wholePart? with
      | some n => .ok n
      | none => .error (.notNumeric s .int64)
  | .array _ => .error (.unsupported .array .int64)
  | .object _ => .error (.unsupported .map .int64)

def toFloat : Value → Except ConversionError Binary64
  | .null => .error (.null .float64)
  | .bool b => .ok (.ofInt (if b then 1 else 0))
  | .int n => .ok (.ofInt n.toInt)
  | .float x => .ok x
  | .string s =>
    match Numeral.readBinary? (Text.trim s) with
    | some x => .ok x
    | none => .error (.notNumeric s .float64)
  | .array _ => .error (.unsupported .array .float64)
  | .object _ => .error (.unsupported .map .float64)

/-- The words for a truth value, in any letter case. -/
def readBool? (s : String) : Option Bool :=
  let word := Text.lowerAscii (Text.trim s)
  if word ∈ ["true", "1", "yes", "t"] then some true
  else if word ∈ ["false", "0", "no", "f", ""] then some false
  else none

/-- Reads a truth value: every number but zero is true. -/
def toBool : Value → Except ConversionError Bool
  | .null => .error (.null .bool)
  | .bool b => .ok b
  | .int n => .ok (n != 0)
  | .float x => .ok (!x.numEq (.zero false))
  | .string s =>
    match readBool? s with
    | some b => .ok b
    | none => .error (.notBool s)
  | .array _ => .error (.unsupported .array .bool)
  | .object _ => .error (.unsupported .map .bool)

/-- Brings a value to a declared type; null has every type, and an unknown type takes every
value. -/
def coerce (v : Value) (type : FieldType) : Except ConversionError Value :=
  if v.isNull then .ok .null
  else match type with
    | .int => v.toInt64.map .int
    | .float => v.toFloat.map .float
    | .string => .ok (.string v.text)
    | .bool => v.toBool.map .bool
    | .other _ => .ok v

/-- The items of an array, also of one that is stored as its JSON text. -/
def elements? : Value → Option (List Value)
  | .array items => some items
  | .string s =>
    if s.toList.head? = some '[' then (readJson? s).bind items? else none
  | _ => none

end Value

end FlatRecord
