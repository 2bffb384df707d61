import FlatRecord.Text.Blank

namespace FlatRecord

/-- The kind of a value as it is reported, or a type name that no rule is known for. -/
inductive Kind where
  | null
  | bool
  | int
  | float
  | string
  | array
  | map
  | other (name : String)
deriving DecidableEq

def Kind.name : Kind → String
  | .null => "null"
  | .bool => "bool"
  | .int => "int"
  | .float => "float"
  | .string => "string"
  | .array => "array"
  | .map => "map"
  | .other name => name

inductive FieldType where
  | int
  | float
  | string
  | bool
  | other (name : String)
deriving DecidableEq

namespace FieldType

/-- Type names are recognised without regard to letter case and blanks around them; a name that
is not recognised is kept as written. -/
def ofName (name : String) : FieldType :=
  let plain := Text.lowerAscii (Text.trim name)
  if plain ∈ ["int", "integer", "int64", "long"] then .int
  else if plain ∈ ["float", "float64", "double", "number"] then .float
  else if plain ∈ ["string", "str", "text"] then .string
  else if plain ∈ ["bool", "boolean"] then .bool
  else .other name

def name : FieldType → String
  | .int => "int"
  | .float => "float"
  | .string => "string"
  | .bool => "bool"
  | .other name => name

/-- Whether values are coerced to this type. -/
def isKnown : FieldType → Bool
  | .other _ => false
  | _ => true

def kind : FieldType → Kind
  | .int => .int
  | .float => .float
  | .string => .string
  | .bool => .bool
  | .other name => .other name

end FieldType

end FlatRecord
