import FlatRecord.Proofs.Flat.Leaves
import FlatRecord.Proofs.Record.Faithful
import FlatRecord.Proofs.Record.Operation

namespace FlatRecord

theorem Datum.flatten_stored {d : Datum} {flat : FlatMap} (h : d.flatten = .ok flat)
    {path : String} {raw : Value} (found : flat.find? path = some raw) :
    raw.isContainer = false := by
  unfold Datum.flatten at h
  cases value : d.toValue with
  | ok v =>
    rw [value] at h
    exact Value.flatten_stored (v := v) h found
  | error e =>
    rw [value] at h
    cases h

namespace Cell

/-- What a stored value is under the type that is declared for it. -/
inductive Effective (raw : Value) : Option FieldType → Value → Prop
  | null (declared : Option FieldType) : raw = .null → Effective raw declared raw
  | undeclared : Effective raw none raw
  | unknown (name : String) : Effective raw (some (.other name)) raw
  | uncoercible {type : FieldType} {e : ConversionError} :
      raw.coerce type = .error e → Effective raw (some type) raw
  | coerced {type : FieldType} {v : Value} : raw.coerce type = .ok v → Effective raw (some type) v

theorem value_typed_none (raw : Value) : (typed raw none).value = raw := by
  cases raw <;> rfl

theorem value_typed_some (raw : Value) (type : FieldType) :
    (typed raw (some type)).value = coerced raw type := by
  unfold value read
  by_cases null : raw.isNull
  · have eq : (typed raw (some type)).isNull = true := null
    have answer : raw.coerce type = .ok .null := by
      unfold Value.coerce
      rw [if_pos null]
    rw [if_pos eq, coerced, answer]
    rfl
  · have ne : ¬(typed raw (some type)).isNull = true := null
    rw [if_neg ne]
    cases type with
    | other name =>
      have answer : raw.coerce (.other name) = .ok raw := by
        unfold Value.coerce
        rw [if_neg null]
      rw [coerced, answer]
      rfl
    | _ => rfl

/-- A cell that has kept nothing has exactly one effective value. -/
theorem effective_iff {raw v : Value} {declared : Option FieldType} :
    Effective raw declared v ↔ (typed raw declared).value = v := by
  constructor
  · intro effective
    cases effective with
    | null _ eq =>
      subst eq
      rfl
    | undeclared => exact value_typed_none raw
    | unknown name => cases raw <;> rfl
    | uncoercible failed => rw [value_typed_some, coerced, failed]; rfl
    | coerced done => rw [value_typed_some, Cell.coerced, done]; rfl
  · rintro rfl
    cases declared with
    | none =>
      rw [value_typed_none]
      exact .undeclared
    | some type =>
      rw [value_typed_some, coerced]
      cases result : raw.coerce type with
      | ok v => exact .coerced result
      | error e => exact .uncoercible result

theorem raw_declare (c : Cell) (declared : Option FieldType) :
    (c.declare declared).raw = c.raw := by
  unfold declare
  split <;> rfl

theorem declared_declare (c : Cell) (declared : Option FieldType) :
    (c.declare declared).declared = declared := by
  unfold declare
  split
  next same => exact same
  next => rfl

theorem declare_typed (raw : Value) (old declared : Option FieldType) :
    (typed raw old).declare declared = typed raw declared := by
  unfold declare
  split
  next same =>
    cases same
    rfl
  next => rfl

theorem declare_declared (c : Cell) : c.declare c.declared = c := if_pos rfl

end Cell

namespace Schema

theorem find?_declare_self (schema : Schema) (path : String) (type : Option FieldType) :
    (schema.declare path type).find? path = type := by
  cases type with
  | some t => exact KeyMap.find?_insert_self schema path t
  | none => exact KeyMap.find?_erase_self schema path

theorem find?_declare_of_ne (schema : Schema) {path other : String} (h : other ≠ path)
    (type : Option FieldType) : (schema.declare path type).find? other = schema.find? other := by
  cases type with
  | some t => exact KeyMap.find?_insert_of_ne schema h t
  | none => exact KeyMap.find?_erase_of_ne schema h

end Schema

namespace Record

theorem cell?_declareType_self (r : Record) (path : String) (type : Option FieldType) :
    (r.declareType path type).cell? path = (r.cell? path).map fun c => c.declare type := by
  unfold cell? declareType
  cases found : r.fields.find? path with
  | none => exact found
  | some c => exact KeyMap.find?_insert_self r.fields path _

theorem cell?_declareType_of_ne (r : Record) {path other : String} (h : other ≠ path)
    (type : Option FieldType) : (r.declareType path type).cell? other = r.cell? other := by
  unfold cell? declareType
  cases found : r.fields.find? path with
  | none => rfl
  | some c => exact KeyMap.find?_insert_of_ne r.fields h _

theorem Faithful.observe {r : Record} (faithful : r.Faithful) (reading : Reading) :
    (r.observe reading).Faithful ∧ (r.observe reading).bare = r.bare := by
  cases reading with
  | field path => exact ⟨faithful.read path, bare_read r path⟩
  | query q => exact faithful.evalQuery q
  | condition c => exact faithful.evalCondition c
  | term t => exact faithful.evalTerm t

theorem Faithful.observeAll {r : Record} (faithful : r.Faithful) (readings : List Reading) :
    (r.observeAll readings).Faithful ∧ (r.observeAll readings).bare = r.bare := by
  induction readings generalizing r with
  | nil => exact ⟨faithful, rfl⟩
  | cons reading rest ih =>
    obtain ⟨faithful', same⟩ := faithful.observe reading
    obtain ⟨last, kept⟩ := ih faithful'
    exact ⟨last, kept.trans same⟩

/-- What holds of a record whatever was done to it. -/
structure Coherent (r : Record) : Prop extends Faithful r where
  stored : ∀ path c, r.cell? path = some c → c.raw.isContainer = false
  declared : ∀ path c, r.cell? path = some c → c.declared = r.schema.find? path

theorem coherent_empty : empty.Coherent where
  kept := by
    intro path c found
    cases found
  ready := Like.ready_empty
  stored := by
    intro path c found
    cases found
  declared := by
    intro path c found
    cases found

section Steps

variable {r : Record} (coherent : r.Coherent)
include coherent

theorem Coherent.replaceFields {flat : FlatMap}
    (stored : ∀ path raw, flat.find? path = some raw → raw.isContainer = false) :
    (r.replaceFields flat).Coherent := by
  have made : ∀ path c, (r.replaceFields flat).cell? path = some c →
      ∃ raw, flat.find? path = some raw ∧ c = .typed raw (r.schema.find? path) := by
    intro path c found
    unfold cell? Record.replaceFields cellsOf at found
    rw [KeyMap.find?_mapValues] at found
    obtain ⟨raw, there, eq⟩ := Option.map_eq_some_iff.mp found
    exact ⟨raw, there, eq.symm⟩
  refine ⟨⟨?_, coherent.ready⟩, ?_, ?_⟩
  · intro path c found
    obtain ⟨raw, _, rfl⟩ := made path c found
    exact Cell.kept_typed raw _
  · intro path c found
    obtain ⟨raw, there, rfl⟩ := made path c found
    exact stored path raw there
  · intro path c found
    obtain ⟨raw, _, rfl⟩ := made path c found
    rfl

theorem Coherent.reset : r.reset.Coherent := by
  refine ⟨⟨?_, coherent.ready⟩, ?_, ?_⟩
  all_goals
    intro path c found
    cases found

theorem Coherent.withScope (scope : Scope) : { r with scope := scope }.Coherent :=
  ⟨⟨coherent.kept, coherent.ready⟩, coherent.stored, coherent.declared⟩

/-- A record whose cells are those of a coherent one with the types of another schema. -/
theorem Coherent.redeclare {s : Record} (ready : s.patterns.Ready)
    (cells : ∀ path c, s.cell? path = some c →
      ∃ old, r.cell? path = some old ∧ c = old.declare (s.schema.find? path)) :
    s.Coherent := by
  refine ⟨⟨?_, ready⟩, ?_, ?_⟩
  · intro path c found
    obtain ⟨old, there, rfl⟩ := cells path c found
    exact (coherent.kept path old there).declare _
  · intro path c found
    obtain ⟨old, there, rfl⟩ := cells path c found
    rw [Cell.raw_declare]
    exact coherent.stored path old there
  · intro path c found
    obtain ⟨old, _, rfl⟩ := cells path c found
    exact Cell.declared_declare old _

theorem Coherent.withSchema (schema : Schema) : (r.withSchema schema).Coherent := by
  apply coherent.redeclare (s := r.withSchema schema) coherent.ready
  intro path c found
  unfold cell? Record.withSchema at found
  rw [KeyMap.find?_mapValues] at found
  obtain ⟨old, there, eq⟩ := Option.map_eq_some_iff.mp found
  exact ⟨old, there, eq.symm⟩

theorem Coherent.declareType (path : String) (type : Option FieldType) :
    (r.declareType path type).Coherent := by
  apply coherent.redeclare (s := r.declareType path type) coherent.ready
  intro other c found
  have schema : (r.declareType path type).schema = r.schema.declare path type := rfl
  rw [schema]
  by_cases eq : other = path
  · subst eq
    rw [Schema.find?_declare_self]
    rw [cell?_declareType_self] at found
    obtain ⟨old, there, eq⟩ := Option.map_eq_some_iff.mp found
    exact ⟨old, there, eq.symm⟩
  · rw [Schema.find?_declare_of_ne r.schema eq]
    have old : r.cell? other = some c := by
      rwa [cell?_declareType_of_ne r eq] at found
    refine ⟨c, old, ?_⟩
    rw [← coherent.declared other c old, Cell.declare_declared]

theorem Coherent.observe (reading : Reading) : (r.observe reading).Coherent := by
  obtain ⟨faithful, same⟩ := coherent.toFaithful.observe reading
  have schema : (r.observe reading).schema = r.schema := by
    rw [← schema_bare, same, schema_bare]
  have cells : ∀ path c, (r.observe reading).cell? path = some c →
      ∃ old, r.cell? path = some old ∧ old.bare = c.bare := by
    intro path c found
    have bares := congrArg (fun s => s.cell? path) same
    rw [cell?_bare, cell?_bare, found] at bares
    exact Option.map_eq_some_iff.mp bares.symm
  refine ⟨faithful, ?_, ?_⟩
  · intro path c found
    obtain ⟨old, there, eq⟩ := cells path c found
    rw [← Cell.raw_bare, ← eq]
    exact coherent.stored path old there
  · intro path c found
    obtain ⟨old, there, eq⟩ := cells path c found
    rw [← Cell.declared_bare, ← eq, schema]
    exact coherent.declared path old there

/-- Every operation keeps a record coherent. -/
theorem Coherent.apply (op : Operation) : (op.apply r).2.Coherent := by
  cases op with
  | setData v =>
    rw [Operation.apply_setData]
    cases flattened : v.flatten with
    | ok flat => exact coherent.replaceFields fun _ _ => Value.flatten_stored flattened
    | error e => exact coherent
  | setDatum d =>
    rw [Operation.apply_setDatum]
    cases flattened : d.flatten with
    | ok flat => exact coherent.replaceFields fun _ _ => Datum.flatten_stored flattened
    | error e => exact coherent
  | setFlat entries => exact coherent.replaceFields fun _ _ => Value.flattenAll_stored
  | reset => exact coherent.reset
  | withSchema schema => exact coherent.withSchema schema
  | declareType path type => exact coherent.declareType path type
  | withConfig config => exact coherent.withScope _
  | withFunctions functions => exact coherent.withScope _
  | withBindings bindings => exact coherent.withScope _
  | bind name v => exact coherent.withScope _
  | unbind name => exact coherent.withScope _
  | register name f => exact coherent.withScope _
  | observe reading => exact coherent.observe reading

end Steps

theorem coherent_ofFlat (entries : List (String × Value)) : (ofFlat entries).Coherent :=
  coherent_empty.replaceFields fun _ _ => Value.flattenAll_stored

theorem Reached.coherent {r : Record} (reached : Reached r) : r.Coherent := by
  induction reached with
  | empty => exact coherent_empty
  | ofValue populated =>
    obtain ⟨flat, flattened, rfl⟩ := setData_eq_ok_iff.mp populated
    exact coherent_empty.replaceFields fun _ _ => Value.flatten_stored flattened
  | ofDatum populated =>
    obtain ⟨flat, flattened, rfl⟩ := setDatum_eq_ok_iff.mp populated
    exact coherent_empty.replaceFields fun _ _ => Datum.flatten_stored flattened
  | ofFlat entries => exact coherent_ofFlat entries
  | ofRow row schema => exact (coherent_ofFlat _).withSchema schema
  | next op _ ih => exact ih.apply op

theorem withSchema_replaceFields (r : Record) (flat : FlatMap) (schema : Schema) :
    (r.withSchema schema).replaceFields flat = (r.replaceFields flat).withSchema schema := by
  have cells : cellsOf schema flat =
      (cellsOf r.schema flat).mapValues fun path c => c.declare (schema.find? path) := by
    apply KeyMap.ext_find?
    intro path
    simp only [cellsOf, KeyMap.find?_mapValues, Option.map_map]
    congr 1
    funext raw
    exact (Cell.declare_typed raw _ _).symm
  unfold Record.replaceFields Record.withSchema
  simp only [cells]

theorem setData_withSchema (r : Record) (v : Value) (schema : Schema) :
    (r.withSchema schema).setData v =
      (r.setData v).map fun populated => populated.withSchema schema := by
  rw [setData_eq, setData_eq]
  cases v.flatten with
  | ok flat => exact congrArg Except.ok (withSchema_replaceFields r flat schema)
  | error e => rfl

theorem Coherent.read_eq_some_iff {r : Record} (coherent : r.Coherent) (readings : List Reading)
    (path : String) (v : Value) :
    ((r.observeAll readings).read path).1 = some v ↔
      ∃ c, r.cell? path = some c ∧ Cell.Effective c.raw (r.schema.find? path) v := by
  obtain ⟨faithful, same⟩ := coherent.toFaithful.observeAll readings
  rw [read_fst, faithful.get?_eq, same, get?, cell?_bare, Option.map_map, Option.map_eq_some_iff]
  apply exists_congr
  intro c
  apply and_congr_right
  intro found
  rw [← coherent.declared path c found]
  exact Cell.effective_iff.symm

/-- Whatever was done to a record before, it stores no array and no object, its fields have the
types that its schema declares, and the value of a field depends on nothing but its raw value and
its type, whichever of them came first and whatever was read since. What fails changes nothing. -/
theorem fields_of_reached {r : Record} (reached : Reached r) :
    (∀ path c, r.cell? path = some c →
      c.raw.isContainer = false ∧ c.declared = r.schema.find? path) ∧
    (∀ readings path v, ((r.observeAll readings).read path).1 = some v ↔
      ∃ c, r.cell? path = some c ∧ Cell.Effective c.raw (r.schema.find? path) v) ∧
    (∀ v schema, (r.withSchema schema).setData v =
      (r.setData v).map fun populated => populated.withSchema schema) ∧
    ∀ op e, (Operation.apply op r).1 = .error e → (Operation.apply op r).2 = r := by
  have coherent := reached.coherent
  refine ⟨?_, coherent.read_eq_some_iff, setData_withSchema r, fun _ _ => Operation.apply_error⟩
  intro path c found
  exact ⟨coherent.stored path c found, coherent.declared path c found⟩

theorem fields_of_typed_flag :
    ∃ r : Record, Reached r ∧
      (∀ readings, ((r.observeAll readings).read "flag").1 = some (.bool true)) ∧
      (∀ readings, ((r.observeAll readings).read "items").1 = some (.string "[1]")) ∧
      ((Operation.setData .null).apply r).2 = r := by
  let flat := ofFlat [("flag", .int 1), ("items", .array [.int 1])]
  have start : Reached flat := .ofFlat _
  have read : Reached (flat.observe (.field "flag")) := start.observe (.field "flag")
  have typed : Reached ((flat.observe (.field "flag")).declareType "flag" (some .bool)) :=
    .next (.declareType "flag" (some .bool)) read
  obtain ⟨_, values, _, failed⟩ := fields_of_reached typed
  refine ⟨_, typed, ?_, ?_, ?_⟩
  · intro readings
    exact (values readings "flag" (.bool true)).mpr ⟨.typed (.int 1) (some .bool), rfl, .coerced rfl⟩
  · intro readings
    exact (values readings "items" (.string "[1]")).mpr
      ⟨.ofValue (.string "[1]"), rfl, .undeclared⟩
  · exact failed (.setData .null) (.notComposite .null) rfl

end Record

end FlatRecord
