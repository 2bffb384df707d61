import FlatRecord.Proofs.Record.Reload
import FlatRecord.Proofs.Record.Spelled

namespace FlatRecord

open Value (Spelled)

namespace Record

theorem Coherent.isNull_of_value {r : Record} (coherent : r.Coherent) {path : String} {c : Cell}
    (found : r.cell? path = some c) (null : c.value = .null) : c.isNull = true := by
  have effective : Cell.Effective c.raw (r.schema.find? path) c.value :=
    Cell.effective_iff.mpr (coherent.cell_eq found).symm
  rw [← Bool.not_eq_false]
  exact fun present => effective.ne_null present null

/-- A record as it comes back under a schema from the texts that it is kept as. -/
def reloadUnder (r : Record) (schema : Schema) : Record :=
  ((Row.ofRecord r).toRecord schema).inScopeOf r

/-- A field has the value that it has in another record, where a missing one counts as null. -/
def ReadsAs (r s : Record) (path : String) : Prop :=
  (s.get? path).getD .null = (r.get? path).getD .null

theorem get?_reloadUnder (r : Record) (schema : Schema) (path : String) :
    (r.reloadUnder schema).get? path = ((r.cell? path).filter fun c => !c.isNull).map fun c =>
      (Cell.typed (.string c.text) (schema.find? path)).value := by
  have cell : (r.reloadUnder schema).cell? path =
    ((Row.ofRecord r).toRecord schema).cell? path := rfl
  rw [get?, cell, Row.cell?_toRecord, Row.find?_ofRecord, Option.map_map, Option.map_map]
  rfl

section Reloaded

variable {r : Record} {schema : Schema} {path : String} {v : Value}

theorem get?_reloadUnder_of_ne_null (found : r.get? path = some v) (present : v ≠ .null) :
    (r.reloadUnder schema).get? path =
      some (Cell.typed (.string v.text) (schema.find? path)).value := by
  obtain ⟨c, cell, rfl⟩ := Option.map_eq_some_iff.mp found
  have filled : c.isNull = false := by
    rw [Bool.eq_false_iff]
    exact fun null => present (Cell.value_of_isNull null)
  rw [get?_reloadUnder, cell, Option.filter_some, filled]
  rfl

theorem get?_reloadUnder_text (undeclared : schema.find? path = none)
    (found : r.get? path = some v) (present : v ≠ .null) :
    (r.reloadUnder schema).get? path = some (.string v.text) := by
  rw [get?_reloadUnder_of_ne_null found present, undeclared, Cell.value_typed_none]

/-- A value that has its declared type comes back from its text. -/
theorem readsAs_of_ofType {type : FieldType} (declared : schema.find? path = some type)
    (found : r.get? path = some v) (has : Value.OfType type v) :
    ReadsAs r (r.reloadUnder schema) path := by
  have present : v ≠ .null := by
    rintro rfl
    cases has
  have again := Cell.effective_iff.mp (.coerced (Value.coerce_text has))
  rw [ReadsAs, get?_reloadUnder_of_ne_null found present, declared, again, found]

theorem Coherent.readsAs_of_text (coherent : r.Coherent) (undeclared : schema.find? path = none)
    (text : ∀ v, r.get? path = some v → v = .null ∨ ∃ s, v = .string s) :
    ReadsAs r (r.reloadUnder schema) path := by
  unfold ReadsAs
  cases found : r.get? path with
  | none =>
    have missing : r.cell? path = none := Option.map_eq_none_iff.mp found
    rw [get?_reloadUnder, missing]
    rfl
  | some v =>
    rcases text v found with rfl | ⟨s, rfl⟩
    · obtain ⟨c, cell, null⟩ := Option.map_eq_some_iff.mp found
      rw [get?_reloadUnder, cell, Option.filter_some, coherent.isNull_of_value cell null]
      rfl
    · rw [get?_reloadUnder_text undeclared found (by simp)]
      rfl

end Reloaded

/-- Numbers compare as their texts do. A record that comes back from its texts therefore answers
every comparison as before, if the fields that it names read as before but for numbers without a
declaration, of which none is passed to a function or a cast. -/
theorem untyped_comparisons {r : Record} (reached : Reached r) (schema : Schema) :
    (∀ (n x : Value) (op : Operator), n.isNumber = true →
      Value.compare op (.string n.text) x = Value.compare op n x ∧
      Value.compare op x (.string n.text) = Value.compare op x n) ∧
    (∀ path, schema.find? path = none →
      (∀ n, r.get? path = some n → n.isNumber = true →
        (r.reloadUnder schema).get? path = some (.string n.text)) ∧
      ((∀ v, r.get? path = some v → v = .null ∨ ∃ s, v = .string s) →
        ReadsAs r (r.reloadUnder schema) path)) ∧
    ∀ (c : Condition) (depth : Nat),
      (c.op.isComparison = true ∨ c.op ∈ [.isIn, .notIn, .between]) →
      (∀ path ∈ c.paths, ReadsAs r (r.reloadUnder schema) path ∨
        schema.find? path = none ∧ ∃ n, r.get? path = some n ∧ n.isNumber = true) →
      (∀ path ∈ c.passed, ReadsAs r (r.reloadUnder schema) path) →
      (r.reloadUnder schema).conditionAt depth c = r.conditionAt depth c := by
  have coherent := reached.coherent
  have comesBack : ∀ path n, schema.find? path = none → r.get? path = some n →
      n.isNumber = true → (r.reloadUnder schema).get? path = some (.string n.text) := by
    intro path n undeclared found number
    apply get?_reloadUnder_text undeclared found
    rintro rfl
    cases number
  refine ⟨?values, ?fields, ?conditions⟩
  case values =>
    intro n x op number
    have spelled : Spelled n (.string n.text) := .number number
    exact ⟨spelled.compare_eq (.same x) op, (Spelled.same x).compare_eq spelled op⟩
  case fields =>
    intro path undeclared
    exact ⟨fun n => comesBack path n undeclared, coherent.readsAs_of_text undeclared⟩
  case conditions =>
    intro c depth compares fields passed
    have loaded : (r.reloadUnder schema).Coherent := (Reached.ofRow _ _).coherent.inScopeOf r
    have shown : ∀ t ∈ c.terms, Respelled r (r.reloadUnder schema) t := by
      intro t mem
      refine ⟨fun path there => ?_, fun path there => ?_⟩
      · have named : path ∈ c.paths := by
          rw [Condition.paths, Term.listPaths_eq_flatMap]
          exact List.mem_flatMap.mpr ⟨t, mem, there⟩
        rcases fields path named with same | ⟨undeclared, n, found, number⟩
        · rw [same]
          exact .same _
        · rw [comesBack path n undeclared found number, found]
          exact .number number
      · exact (passed path (List.mem_flatMap.mpr ⟨t, mem, there⟩)).symm
    rw [loaded.toFaithful.conditionAt_eq, coherent.toFaithful.conditionAt_eq]
    exact congrArg ExceptT.run (eval_eq_of_respelled _ _ shown compares).symm

/-- An integer and NaN without a declaration, in a range that a truth value with one belongs to. -/
theorem untyped_comparisons_between :
    ∃ (r : Record) (schema : Schema) (c : Condition), Reached r ∧
      c = .between (.property "k") (.property "t")
        (.arithmetic .add (.property "x") (.cast "bool" (.property "b"))) ∧
      Value.compare .lt (.string "3") (.bool true) = Value.compare .lt (.int 3) (.bool true) ∧
      r.get? "k" = some (.int 3) ∧ (r.reloadUnder schema).get? "k" = some (.string "3") ∧
      r.get? "x" = some (.float .nan) ∧ r.get? "t" = some (.string " 1.0 ") ∧
      r.get? "b" = some (.bool true) ∧
      (r.reloadUnder schema).conditionAt 0 c = r.conditionAt 0 c := by
  let r := ofFlat [("b", .bool true), ("k", .int 3), ("t", .string " 1.0 "), ("x", .float .nan)]
  let schema := Schema.declare .empty "b" (some .bool)
  let c : Condition := .between (.property "k") (.property "t")
    (.arithmetic .add (.property "x") (.cast "bool" (.property "b")))
  have reached : Reached r := .ofFlat _
  have b : ReadsAs r (r.reloadUnder schema) "b" := readsAs_of_ofType rfl rfl (.bool true)
  have k : r.get? "k" = some (.int 3) := rfl
  have t : r.get? "t" = some (.string " 1.0 ") := rfl
  have x : r.get? "x" = some (.float .nan) := rfl
  obtain ⟨values, fields, conditions⟩ := untyped_comparisons reached schema
  refine ⟨r, schema, c, reached, rfl, (values (.int 3) (.bool true) .lt rfl).1, k,
    (fields "k" rfl).1 _ k rfl, x, t, rfl, conditions c 0 (.inr (by decide)) ?_ ?_⟩
  · intro path mem
    have named : path = "k" ∨ path = "t" ∨ path = "x" ∨ path = "b" := by
      simpa [c, Condition.between, Condition.paths, Condition.terms, Term.listPaths, Term.paths]
        using mem
    rcases named with rfl | rfl | rfl | rfl
    · exact .inr ⟨rfl, _, k, rfl⟩
    · refine .inl ((fields "t" rfl).2 fun v found => .inr ⟨" 1.0 ", ?_⟩)
      exact Option.some.inj (found.symm.trans t)
    · exact .inr ⟨rfl, _, x, rfl⟩
    · exact .inl b
  · intro path mem
    have named : path = "b" := by
      simpa [c, Condition.between, Condition.passed, Condition.terms, Term.passed, Term.paths]
        using mem
    rw [named]
    exact b

end Record

end FlatRecord
