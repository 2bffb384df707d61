import FlatRecord.Query.Json

namespace FlatRecord

/-- The types declared for paths. -/
abbrev Schema := KeyMap FieldType

namespace Schema

/-- A declaration, or its withdrawal. -/
def declare (schema : Schema) (path : String) : Option FieldType → Schema
  | some type => schema.insert path type
  | none => schema.erase path

/-- Of a path named twice the last type stays. -/
def ofNames (pairs : List (String × String)) : Schema :=
  .ofList (pairs.map fun p => (p.1, FieldType.ofName p.2))

def toJson (schema : Schema) : Json :=
  .object (schema.entries.map fun e => (e.1, .string e.2.name))

/-- A document with a type name for every path. -/
def ofJson : Json → Except DocumentError Schema
  | .object entries => do
    let pairs ← entries.mapM fun e => do return (e.1, ← Document.text e.2)
    return ofNames pairs
  | _ => .error .malformed

end Schema

end FlatRecord
