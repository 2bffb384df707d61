import FlatRecord.Cell
import FlatRecord.Flat
import FlatRecord.Like.Cache
import FlatRecord.Regex.Plain
import FlatRecord.Schema
import FlatRecord.Scope

namespace FlatRecord

/-- A flat document with its schema, the scope of its queries and the patterns they used. -/
structure Record where
  fields : KeyMap Cell := .empty
  schema : Schema := .empty
  scope : Scope := {}
  patterns : Like.Cache Regex.Engine.plain := {}

namespace Record

def empty : Record := {}

instance : Inhabited Record := ⟨empty⟩

/-- The cells for flat values, with the types that a schema declares for their paths. -/
def cellsOf (schema : Schema) (flat : FlatMap) : KeyMap Cell :=
  flat.mapValues fun path raw => .typed raw (schema.find? path)

def replaceFields (r : Record) (flat : FlatMap) : Record :=
  { r with fields := cellsOf r.schema flat }

/-- A change of a record in place that may fail. -/
abbrev Update := ExceptT StructureError (StateM Record) Unit

/-- Replaces the fields by a flat form, which is complete before the record is touched. -/
def Update.populate (flattened : Except StructureError FlatMap) : Update := do
  let flat ← flattened
  modify fun r => r.replaceFields flat

def Update.setData (v : Value) : Update := populate v.flatten

/-- The record after an update that succeeds. -/
def updated (r : Record) (update : Update) : Except StructureError Record :=
  match update.run.run r with
  | (.ok _, s) => .ok s
  | (.error e, _) => .error e

/-- Replaces the fields by the flat form of an object. -/
def setData (r : Record) (v : Value) : Except StructureError Record := r.updated (.setData v)

theorem Update.run_populate (flattened : Except StructureError FlatMap) (r : Record) :
    (populate flattened).run.run r = match flattened with
      | .ok flat => (.ok (), r.replaceFields flat)
      | .error e => (.error e, r) := by
  cases flattened <;> rfl

theorem updated_populate (flattened : Except StructureError FlatMap) (r : Record) :
    r.updated (.populate flattened) = flattened.map r.replaceFields := by
  rw [updated, Update.run_populate]
  cases flattened <;> rfl

theorem setData_eq (r : Record) (v : Value) : r.setData v = v.flatten.map r.replaceFields :=
  updated_populate v.flatten r

/-- Replaces the fields by values at paths, of which objects are taken apart. -/
def setFlat (r : Record) (entries : List (String × Value)) : Record :=
  r.replaceFields (Value.flattenAll entries)

def ofValue (v : Value) : Except StructureError Record := empty.setData v

def ofFlat (entries : List (String × Value)) : Record := empty.setFlat entries

def reset (r : Record) : Record := { r with fields := .empty }

/-- Replaces the schema and gives every cell the type it declares. -/
def withSchema (r : Record) (schema : Schema) : Record :=
  { r with
    schema := schema
    fields := r.fields.mapValues fun path c => c.declare (schema.find? path) }

def withConfig (r : Record) (config : Config) : Record :=
  { r with scope := { r.scope with config := config } }

def withFunctions (r : Record) (functions : Registry) : Record :=
  { r with scope := { r.scope with functions := functions } }

def withBindings (r : Record) (bindings : Bindings) : Record :=
  { r with scope := { r.scope with bindings := bindings } }

def register (r : Record) (name : String) (f : Function) : Record :=
  r.withFunctions (r.scope.functions.register name f)

/-- A dollar sign before the name is passed over. -/
def bind (r : Record) (name : String) (v : Value) : Record :=
  r.withBindings (r.scope.bindings.insert (plainName name) v)

def binding? (r : Record) (name : String) : Option Value :=
  r.scope.bindings.find? (plainName name)

def unbind (r : Record) (name : String) : Record :=
  r.withBindings (r.scope.bindings.erase (plainName name))

/-- Declares the type of one path, or withdraws the declaration. -/
def declareType (r : Record) (path : String) (type : Option FieldType) : Record :=
  { r with
    schema := r.schema.declare path type
    fields := match r.fields.find? path with
      | some c => r.fields.insert path (c.declare type)
      | none => r.fields }

def cell? (r : Record) (path : String) : Option Cell := r.fields.find? path

/-- The effective value of a field, and the record whose cell has kept it. -/
def read (r : Record) (path : String) : Option Value × Record :=
  match r.cell? path with
  | none => (none, r)
  | some c =>
    match c.read with
    | (v, c) => (some v, { r with fields := r.fields.insert path c })

def get? (r : Record) (path : String) : Option Value := (r.cell? path).map Cell.value

def contains (r : Record) (path : String) : Bool := r.fields.contains path

def size (r : Record) : Nat := r.fields.size

def isEmpty (r : Record) : Bool := r.fields.isEmpty

def kind? (r : Record) (path : String) : Option Kind := (r.cell? path).map Cell.kind

def isInt (r : Record) (path : String) : Bool := r.kind? path == some .int

def isFloat (r : Record) (path : String) : Bool := r.kind? path == some .float

def isString (r : Record) (path : String) : Bool := r.kind? path == some .string

def isBool (r : Record) (path : String) : Bool := r.kind? path == some .bool

/-- The effective values by path. -/
def toFlat (r : Record) : FlatMap := r.fields.mapValues fun _ c => c.value

/-- The nested object of the effective values. -/
def toMap (r : Record) : Value := Value.unflatten r.toFlat

end Record

end FlatRecord
