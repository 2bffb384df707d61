import FlatRecord.Path
import FlatRecord.Value.Json

namespace FlatRecord

/-- Why data cannot be stored in a record. -/
inductive StructureError where
  | notComposite (kind : Kind)
  | keyNotText
  | numberOutOfRange
deriving DecidableEq

def StructureError.message : StructureError → String
  | .notComposite kind => "expected a map or struct, got " ++ kind.name
  | .keyNotText => "serialization failed: key must be a string"
  | .numberOutOfRange => "serialization failed: number out of range"

/-- Values without objects, by dot-joined path. -/
abbrev FlatMap := KeyMap Value

namespace Value

mutual

/-- What is stored for a value at a path, in key order: objects are taken apart, and an array is
stored as its JSON text. -/
def leavesAt (path : String) : Value → List (String × Value)
  | .object entries => leavesBelow (some path) entries
  | .array items => [(path, .string (Value.array items).jsonText)]
  | leaf => [(path, leaf)]
termination_by structural v => v

/-- What is stored for the entries of an object, at the top or below a path. -/
def leavesBelow (path : Option String) : List (String × Value) → List (String × Value)
  | [] => []
  | (key, v) :: rest => leavesAt (Path.extend path key) v ++ leavesBelow path rest
termination_by structural entries => entries

end

/-- The flat form of an object. Where a key with a dot spells a nested path, the value stored
later in key order stays. -/
def flatten : Value → Except StructureError FlatMap
  | .object entries => .ok (.ofList (leavesBelow none entries))
  | other => .error (.notComposite other.kind)

/-- Stores one value at a path, of which an object is taken apart below the path. -/
def storeAt (flat : FlatMap) (path : String) : Value → FlatMap
  | .object entries => flat.insertAll (leavesBelow (some path) entries)
  | .array items => flat.insert path (.string (Value.array items).jsonText)
  | leaf => flat.insert path leaf

/-- The flat form of values at paths, stored one after the other. -/
def flattenAll (entries : List (String × Value)) : FlatMap :=
  entries.foldl (fun flat e => storeAt flat e.1 e.2) .empty

/-- Stores a value below keys, which become objects where there is nothing yet. A key that is
taken, by a value at the last key or by anything but an object before it, leaves all as it is. -/
def insertAt : List String → Value → List (String × Value) → List (String × Value)
  | [], _, entries => entries
  | [key], v, entries =>
    match entries.lookup key with
    | some _ => entries
    | none => Entries.insert key v entries
  | key :: next :: keys, v, entries =>
    match entries.lookup key with
    | none => Entries.insert key (.object (insertAt (next :: keys) v [])) entries
    | some (.object inner) => Entries.insert key (.object (insertAt (next :: keys) v inner)) entries
    | some _ => entries

/-- The object whose keys the paths spell, built in path order; a path that meets a value stored
before it is left out. -/
def unflatten (flat : FlatMap) : Value :=
  .object (flat.entries.foldl (fun entries e => insertAt (Path.segments e.1) e.2 entries) [])

end Value

end FlatRecord
