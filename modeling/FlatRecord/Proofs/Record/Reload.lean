import FlatRecord.Proofs.Record.Relevance
import FlatRecord.Proofs.Value.Reread

namespace FlatRecord

namespace Row

/-- A record is kept as the texts of its fields that are not null. -/
theorem find?_ofRecord (r : Record) (path : String) :
    (ofRecord r).find? path = ((r.cell? path).filter fun c => !c.isNull).map Cell.text := by
  have kept : Entries.Ascending (r.fields.entries.filter fun e => !e.2.isNull) :=
    r.fields.ascending.sublist List.filter_sublist
  have texts := Entries.ascending_mapValues (f := fun _ c => c.text) kept
  rw [ofRecord, KeyMap.find?_ofList_of_ascending texts]
  apply Option.ext
  intro text
  rw [Entries.lookup_eq_some_iff texts, Option.map_eq_some_iff]
  simp only [Option.filter_eq_some_iff]
  constructor
  · intro mem
    obtain ⟨⟨key, c⟩, mem, eq⟩ := List.mem_map.mp mem
    obtain ⟨there, present⟩ := List.mem_filter.mp mem
    obtain ⟨rfl, rfl⟩ := Prod.mk.inj eq
    exact ⟨c, ⟨KeyMap.find?_eq_some_iff.mpr there, present⟩, rfl⟩
  · rintro ⟨c, ⟨found, present⟩, rfl⟩
    have there : (path, c) ∈ r.fields.entries := KeyMap.find?_eq_some_iff.mp found
    exact List.mem_map.mpr ⟨(path, c), List.mem_filter.mpr ⟨there, present⟩, rfl⟩

theorem flattenAll_texts (row : Row) :
    Value.flattenAll (row.entries.map fun e => (e.1, .string e.2)) =
      row.mapValues fun _ text => .string text := by
  have leaves : ∀ e : String × String, Value.leavesAt e.1 (.string e.2) = [(e.1, .string e.2)] := by
    intro e
    rw [Value.leavesAt]
    all_goals simp
  have whole := Entries.ascending_mapValues (f := fun _ text => Value.string text) row.ascending
  apply KeyMap.ext_entries
  rw [Value.flattenAll_eq, List.flatMap_map]
  simp only [leaves, ← List.map_eq_flatMap]
  exact Entries.ofList_of_ascending whole

theorem cell?_toRecord (row : Row) (schema : Schema) (path : String) :
    (row.toRecord schema).cell? path =
      (row.find? path).map fun text => .typed (.string text) (schema.find? path) := by
  unfold Record.cell? toRecord Record.withSchema Record.ofFlat Record.setFlat Record.replaceFields
    Record.cellsOf
  simp only [flattenAll_texts, KeyMap.find?_mapValues, Option.map_map]
  congr 1
  funext text
  exact Cell.declare_typed _ _ _

end Row

namespace Cell

/-- The text of a value that was brought to a known type is brought to this value again. -/
theorem effective_text {raw v : Value} {type : FieldType} (known : type.isKnown)
    (present : raw.isNull = false) (done : raw.coerce type = .ok v) :
    Effective (.string v.text) (some type) v :=
  .coerced (Value.coerce_text (Value.ofType_of_coerce known present done))

theorem value_of_isNull {c : Cell} (null : c.isNull = true) : c.value = .null := by
  unfold value read
  rw [if_pos null]

theorem Effective.ne_null {raw v : Value} {declared : Option FieldType}
    (present : raw.isNull = false) (effective : Effective raw declared v) : v ≠ .null := by
  rintro rfl
  cases effective with
  | @coerced type _ done =>
    by_cases known : type.isKnown
    · cases Value.ofType_of_coerce known present done
    · cases type with
      | other name =>
        have same : raw = .null := by simpa [Value.coerce, present] using done
        subst same
        cases present
      | _ => exact known rfl
  | _ => cases present

/-- The text of a value stands for this value or for itself. -/
theorem Effective.reread {raw v : Value} {declared : Option FieldType}
    (flat : raw.isContainer = false) (present : raw.isNull = false)
    (effective : Effective raw declared v) :
    Effective (.string v.text) declared v ∨ Effective (.string v.text) declared (.string v.text) := by
  cases effective with
  | null _ eq =>
    subst eq
    cases present
  | undeclared => exact Or.inr .undeclared
  | unknown name => exact Or.inr (.unknown name)
  | uncoercible failed => exact Or.inr (.uncoercible (Value.coerce_text_error flat failed))
  | @coerced type _ done =>
    by_cases known : type.isKnown
    · exact Or.inl (effective_text known present done)
    · cases type with
      | other name => exact Or.inr (.unknown name)
      | _ => exact absurd rfl known

theorem text_reread {raw : Value} {declared : Option FieldType} (flat : raw.isContainer = false)
    (present : raw.isNull = false) :
    (typed (.string (typed raw declared).text) declared).text = (typed raw declared).text := by
  have effective : Effective raw declared (typed raw declared).value := effective_iff.mpr rfl
  rcases effective.reread flat present with again | again
  · rw [text, text, effective_iff.mp again]
  · rw [text, text, effective_iff.mp again]
    rfl

end Cell

namespace Record

/-- A record as it comes back from the texts that it is kept as. -/
def reload (r : Record) : Record := (Row.ofRecord r).toRecord r.schema

theorem reached_reload (r : Record) : Reached r.reload := .ofRow _ _

theorem Coherent.cell_eq {r : Record} (coherent : r.Coherent) {path : String} {c : Cell}
    (found : r.cell? path = some c) : c.value = (Cell.typed c.raw (r.schema.find? path)).value := by
  rw [(coherent.kept path c found).value_eq, Cell.bare, coherent.declared path c found]

theorem Coherent.text_eq {r : Record} (coherent : r.Coherent) {path : String} {c : Cell}
    (found : r.cell? path = some c) : c.text = (Cell.typed c.raw (r.schema.find? path)).text :=
  congrArg Value.text (coherent.cell_eq found)

theorem cell?_reload (r : Record) (path : String) :
    r.reload.cell? path =
      ((Row.ofRecord r).find? path).map fun text =>
        .typed (.string text) (r.schema.find? path) :=
  Row.cell?_toRecord _ _ path

/-- What is kept of a record that was loaded is what it was loaded from. -/
theorem Coherent.ofRecord_reload {r : Record} (coherent : r.Coherent) :
    Row.ofRecord r.reload = Row.ofRecord r := by
  apply KeyMap.ext_find?
  intro path
  rw [Row.find?_ofRecord, cell?_reload]
  cases kept : (Row.ofRecord r).find? path with
  | none => rfl
  | some text =>
    rw [Row.find?_ofRecord, Option.map_eq_some_iff] at kept
    obtain ⟨c, there, rfl⟩ := kept
    obtain ⟨found, present⟩ := Option.filter_eq_some_iff.mp there
    rw [Bool.not_eq_true'] at present
    rw [coherent.text_eq found]
    exact congrArg some (Cell.text_reread (coherent.stored path c found) present)

/-- Every load and save after the first leaves the texts of a record as they are, each at its path:
those of the fields that are not null. -/
theorem texts_of_reload {r : Record} (reached : Reached r) :
    (∀ times, Row.ofRecord (Nat.repeat reload times r) = Row.ofRecord r) ∧
    ∀ path, (Row.ofRecord r).find? path =
      ((r.cell? path).filter fun c => !c.isNull).map Cell.text := by
  refine ⟨?_, Row.find?_ofRecord r⟩
  intro times
  have run : Reached (Nat.repeat reload times r) ∧
      Row.ofRecord (Nat.repeat reload times r) = Row.ofRecord r := by
    induction times with
    | zero => exact ⟨reached, rfl⟩
    | succ times ih =>
      obtain ⟨before, same⟩ := ih
      exact ⟨reached_reload _, before.coherent.ofRecord_reload.trans same⟩
  exact run.2

theorem texts_of_reload_mixed :
    ∃ r : Record, Reached r ∧
      (∀ times, Row.ofRecord (Nat.repeat reload times r) = Row.ofRecord r) ∧
      (Row.ofRecord r).entries = [("n", "NaN"), ("t", " 1.50 ")] := by
  let flat := ofFlat [("gone", .null), ("n", .float .nan), ("t", .string " 1.50 ")]
  have start : Reached flat := .ofFlat _
  have typed : Reached (flat.declareType "n" (some .int)) := .next (.declareType "n" (some .int)) start
  exact ⟨_, typed, (texts_of_reload typed).1, by decide⟩

/-- Every field holds null, a text, or what a known type has made of its stored value. -/
def Typed (r : Record) : Prop :=
  ∀ path c, r.cell? path = some c →
    c.value = .null ∨ (∃ s, c.value = .string s) ∨
      ∃ type v, c.declared = some type ∧ type.isKnown = true ∧ c.raw.coerce type = .ok v

/-- The record with the configuration, the functions and the variables of another. -/
def inScopeOf (r other : Record) : Record :=
  ((r.withConfig other.scope.config).withFunctions other.scope.functions).withBindings
    other.scope.bindings

theorem Coherent.inScopeOf {r : Record} (coherent : r.Coherent) (other : Record) :
    (r.inScopeOf other).Coherent :=
  ((coherent.withScope _).withScope _).withScope _

section Typed

variable {r : Record} (coherent : r.Coherent) (typed : r.Typed)
include coherent typed

theorem Coherent.value_reread {path : String} {c : Cell} (found : r.cell? path = some c)
    (present : c.isNull = false) :
    (Cell.typed (.string c.text) (r.schema.find? path)).value = c.value := by
  have effective : Cell.Effective c.raw (r.schema.find? path) c.value :=
    Cell.effective_iff.mpr (coherent.cell_eq found).symm
  rcases typed path c found with null | ⟨s, eq⟩ | ⟨type, v, declared, known, done⟩
  · exact absurd null (effective.ne_null present)
  · have text : c.value = .string c.text := by
      unfold Cell.text
      rw [eq]
      rfl
    rcases effective.reread (coherent.stored path c found) present with again | again
    · exact Cell.effective_iff.mp again
    · exact (Cell.effective_iff.mp again).trans text.symm
  · have value : c.value = v := by
      rw [coherent.cell_eq found, ← coherent.declared path c found, declared]
      exact Cell.effective_iff.mp (.coerced done)
    have text : c.text = v.text := congrArg Value.text value
    rw [← coherent.declared path c found, declared, text, value]
    exact Cell.effective_iff.mp (Cell.effective_text known present done)

/-- A field that was null is missing after a load; the others have the values they had. -/
theorem Coherent.get?_reload (path : String) :
    (r.reload.get? path).getD .null = (r.get? path).getD .null := by
  unfold get?
  rw [cell?_reload, Row.find?_ofRecord]
  cases found : r.cell? path with
  | none => rfl
  | some c =>
    by_cases null : c.isNull
    · simp [Option.filter, null, Cell.value_of_isNull null]
    · have present : c.isNull = false := Bool.not_eq_true _ ▸ null
      simp only [Option.filter, present, Bool.not_false, ↓reduceIte, Option.map_some,
        Option.getD_some]
      exact coherent.value_reread typed found present

end Typed

/-- A record that was saved and loaded answers queries as before. -/
theorem satisfies_reload {r : Record} (reached : Reached r) (typed : r.Typed) (q : Query) :
    (r.reload.inScopeOf r).satisfies q = r.satisfies q := by
  have loaded := (reached_reload r).coherent.inScopeOf r
  rw [loaded.satisfies_eq, reached.coherent.satisfies_eq]
  exact answer_eq_of_agreement rfl rfl (fun path _ => reached.coherent.get?_reload typed path)
    fun _ _ => rfl

theorem satisfies_reload_flag :
    ∃ r : Record, Reached r ∧ r.get? "flag" = some (.bool true) ∧ r.get? "gone" = some .null ∧
      (Row.ofRecord r).entries = [("flag", "true"), ("t", "x")] ∧
      ∀ q, (r.reload.inScopeOf r).satisfies q = r.satisfies q := by
  let flat := ofFlat [("flag", .string " YES "), ("gone", .null), ("t", .string "x")]
  let declared := flat.declareType "flag" (some .bool)
  have start : Reached flat := .ofFlat _
  have reached : Reached declared := .next (.declareType "flag" (some .bool)) start
  have cells : declared.fields.entries =
      [("flag", .typed (.string " YES ") (some .bool)), ("gone", .typed .null none),
        ("t", .typed (.string "x") none)] := rfl
  have typed : declared.Typed := by
    intro path c found
    have mem : (path, c) ∈ declared.fields.entries := KeyMap.find?_eq_some_iff.mp found
    rw [cells] at mem
    simp only [List.mem_cons, Prod.mk.injEq, List.not_mem_nil, or_false] at mem
    rcases mem with ⟨_, rfl⟩ | ⟨_, rfl⟩ | ⟨_, rfl⟩
    · exact Or.inr (Or.inr ⟨.bool, .bool true, rfl, rfl, rfl⟩)
    · exact Or.inl rfl
    · exact Or.inr (Or.inl ⟨"x", rfl⟩)
  exact ⟨declared, reached, rfl, rfl, by decide, satisfies_reload reached typed⟩

end Record

end FlatRecord
