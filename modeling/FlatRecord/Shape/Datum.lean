import FlatRecord.Flat

namespace FlatRecord

inductive Datum where
  | unit
  | bool (b : Bool)
  | int (n : Int)
  | float (x : Binary64)
  | char (c : Char)
  | text (s : String)
  /-- Data that may have any type. -/
  | value (v : Value)
  | absent
  | present (content : Datum)
  /-- A sequence or a tuple. -/
  | list (items : List Datum)
  | map (entries : List (Datum × Datum))
  /-- The fields of a structure that are to be written. -/
  | fields (entries : List (String × Datum))
  | name (label : String)
  | variant (label : String) (content : Datum)

namespace Datum

instance : Inhabited Datum := ⟨unit⟩

/-- The text that stands for a map key. -/
def keyText? : Datum → Option String
  | .text s => some s
  | .char c => some c.toString
  | .int n => some (String.ofList (Json.intChars n))
  | .bool b => some (String.ofList (Json.boolChars b))
  | .name label => some label
  | _ => none

mutual

/-- The document of typed data. Fails for a map whose keys are not simple, and for an integer that
has neither a signed nor an unsigned form of 64 bits. -/
def toJson : Datum → Except StructureError Json
  | .unit => .ok .null
  | .bool b => .ok (.bool b)
  | .int n =>
    if -(twoTo 63 : Int) ≤ n ∧ n < twoTo 64 then .ok (.int n) else .error .numberOutOfRange
  | .float x => .ok (Value.float x).toJson
  | .char c => .ok (.string c.toString)
  | .text s => .ok (.string s)
  | .value v => .ok v.toJson
  | .absent => .ok .null
  | .present content => content.toJson
  | .list items => do return .array (← listToJson items)
  | .map entries => do return .object (← mapToJson entries)
  | .fields entries => do return .object (← fieldsToJson entries)
  | .name label => .ok (.string label)
  | .variant label content => do return .object [(label, ← content.toJson)]
termination_by structural d => d

def listToJson : List Datum → Except StructureError (List Json)
  | [] => .ok []
  | item :: rest => do
    let json ← item.toJson
    let others ← listToJson rest
    return json :: others
termination_by structural items => items

def mapToJson : List (Datum × Datum) → Except StructureError (List (String × Json))
  | [] => .ok []
  | (key, item) :: rest => do
    match key.keyText? with
    | none => throw .keyNotText
    | some key =>
      let json ← item.toJson
      let others ← mapToJson rest
      return (key, json) :: others
termination_by structural entries => entries

def fieldsToJson : List (String × Datum) → Except StructureError (List (String × Json))
  | [] => .ok []
  | (key, item) :: rest => do
    let json ← item.toJson
    let others ← fieldsToJson rest
    return (key, json) :: others
termination_by structural entries => entries

end

def toValue (d : Datum) : Except StructureError Value := d.toJson.map Value.ofJson

/-- The flat form of typed data, which must be a structure or a map. -/
def flatten (d : Datum) : Except StructureError FlatMap := do (← d.toValue).flatten

/-- Whether there is nothing to write for a field that is left out when empty. -/
def isEmpty : Datum → Bool
  | .absent => true
  | .list items => items.isEmpty
  | .map entries => entries.isEmpty
  | .text s => s.isEmpty
  | _ => false

end Datum

end FlatRecord
