import FlatRecord.Record.Eval
import FlatRecord.Record.Typed
import FlatRecord.Row

namespace FlatRecord

namespace Record

/-- What callers may ask of a record. All other accessors read single fields one after the
other. -/
inductive Reading where
  | field (path : String)
  | query (q : Query)
  | condition (c : Condition)
  | term (t : Term)

/-- The record after a reading, with what it has kept. -/
def observe (r : Record) : Reading → Record
  | .field path => (r.read path).2
  | .query q => (r.evalQuery q).2
  | .condition c => (r.evalCondition c).2
  | .term t => (r.evalTerm t).2

def observeAll (r : Record) (readings : List Reading) : Record := readings.foldl observe r

/-- What callers may do to a record. -/
inductive Operation where
  | setData (v : Value)
  | setDatum (d : Datum)
  | setFlat (entries : List (String × Value))
  | reset
  | withSchema (schema : Schema)
  | declareType (path : String) (type : Option FieldType)
  | withConfig (config : Config)
  | withFunctions (functions : Registry)
  | withBindings (bindings : Bindings)
  | bind (name : String) (v : Value)
  | unbind (name : String)
  | register (name : String) (f : Function)
  | observe (reading : Reading)

namespace Operation

/-- Carries an operation out on a record in place. -/
def perform : Operation → Update
  | .setData v => Update.setData v
  | .setDatum d => Update.setDatum d
  | .setFlat entries => modify fun r => r.setFlat entries
  | .reset => modify fun r => r.reset
  | .withSchema schema => modify fun r => r.withSchema schema
  | .declareType path type => modify fun r => r.declareType path type
  | .withConfig config => modify fun r => r.withConfig config
  | .withFunctions functions => modify fun r => r.withFunctions functions
  | .withBindings bindings => modify fun r => r.withBindings bindings
  | .bind name v => modify fun r => r.bind name v
  | .unbind name => modify fun r => r.unbind name
  | .register name f => modify fun r => r.register name f
  | .observe reading => modify fun r => r.observe reading

/-- What an operation answers, and the record after it. -/
def apply (op : Operation) (r : Record) : Except StructureError Unit × Record :=
  (op.perform.run).run r

end Operation

/-- The records that callers can come to hold. -/
inductive Reached : Record → Prop
  | empty : Reached empty
  | ofValue {v : Value} {r : Record} : Record.ofValue v = .ok r → Reached r
  | ofDatum {d : Datum} {r : Record} : Record.ofDatum d = .ok r → Reached r
  | ofFlat (entries : List (String × Value)) : Reached (Record.ofFlat entries)
  | ofRow (row : Row) (schema : Schema) : Reached (row.toRecord schema)
  | next {r : Record} (op : Operation) : Reached r → Reached (op.apply r).2

theorem Reached.observe {r : Record} (reached : Reached r) (reading : Reading) :
    Reached (r.observe reading) :=
  .next (.observe reading) reached

theorem setData_eq_ok_iff {r s : Record} {v : Value} :
    r.setData v = .ok s ↔ ∃ flat, v.flatten = .ok flat ∧ r.replaceFields flat = s := by
  rw [setData_eq]
  cases v.flatten <;> simp [Except.map]

theorem setDatum_eq_ok_iff {r s : Record} {d : Datum} :
    r.setDatum d = .ok s ↔ ∃ flat, d.flatten = .ok flat ∧ r.replaceFields flat = s := by
  rw [setDatum_eq]
  cases d.flatten <;> simp [Except.map]

namespace Operation

theorem apply_setData (v : Value) (r : Record) :
    (setData v).apply r = match v.flatten with
      | .ok flat => (.ok (), r.replaceFields flat)
      | .error e => (.error e, r) :=
  Update.run_populate v.flatten r

theorem apply_setDatum (d : Datum) (r : Record) :
    (setDatum d).apply r = match d.flatten with
      | .ok flat => (.ok (), r.replaceFields flat)
      | .error e => (.error e, r) :=
  Update.run_populate d.flatten r

/-- An operation that fails leaves the record as it was. -/
theorem apply_error {op : Operation} {r : Record} {e : StructureError}
    (h : (op.apply r).1 = .error e) : (op.apply r).2 = r := by
  cases op with
  | setData v =>
    rw [apply_setData] at h ⊢
    split at h
    next => cases h
    next => rfl
  | setDatum d =>
    rw [apply_setDatum] at h ⊢
    split at h
    next => cases h
    next => rfl
  | _ => cases h

end Operation

end Record

end FlatRecord
