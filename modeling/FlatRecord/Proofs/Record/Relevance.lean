import FlatRecord.Proofs.Record.Coherent

namespace FlatRecord

theorem NameSet.contains_insertNames (set : NameSet) (names : List String) (name : String) :
    (set.insertNames names).contains name = true ↔ set.contains name = true ∨ name ∈ names := by
  unfold insertNames
  rw [KeyMap.contains_insertAll, List.map_map]
  have same : names.map (Prod.fst ∘ fun n => (n, ())) = names := List.map_id names
  rw [same]

namespace Query

theorem contains_properties (q : Query) (path : String) :
    q.properties.contains path = true ↔ path ∈ q.paths := by
  unfold properties collectPaths
  rw [NameSet.contains_insertNames]
  exact or_iff_right Bool.false_ne_true

theorem contains_variableNames (q : Query) (name : String) :
    q.variableNames.contains name = true ↔ name ∈ q.names := by
  unfold variableNames collectNames
  rw [NameSet.contains_insertNames]
  exact or_iff_right Bool.false_ne_true

end Query

namespace Record

/-- Evaluations that keep nothing and have the same outcome. -/
def agreeing : Correspondence Id Id where
  Related e x := e = x
  pure _ := rfl
  throw _ := rfl
  bind := by
    intro α β x y f g hx hf
    rw [hx, funext hf]

theorem agreeing_of_shared {r s : Record} {scope scope' : Scope} {paths names : List String}
    (functions : scope.functions = scope'.functions) (config : scope.config = scope'.config)
    (fields : ∀ path ∈ paths, (r.get? path).getD .null = (s.get? path).getD .null)
    (bindings : ∀ name ∈ names, scope.bindings.find? name = scope'.bindings.find? name) :
    agreeing.Agreement r.plainSource s.plainSource scope scope' paths names where
  field path mem := congrArg (fun v : Id Value => ExceptT.lift v) (fields path mem)
  like _ _ _ := rfl
  config := config
  functions := functions
  bindings := bindings

section

variable {r s : Record} {q : Query}
  (functions : r.scope.functions = s.scope.functions)
  (config : r.scope.config = s.scope.config)
  (fields : ∀ path, q.properties.contains path = true →
    (r.get? path).getD .null = (s.get? path).getD .null)
  (bindings : ∀ name, q.variableNames.contains name = true →
    r.scope.bindings.find? name = s.scope.bindings.find? name)
include functions config fields bindings

theorem agreeing_agreement :
    agreeing.Agreement r.plainSource s.plainSource r.scope s.scope q.paths q.names :=
  agreeing_of_shared functions config
    (fun path mem => fields path ((q.contains_properties path).mpr mem))
    (fun name mem => bindings name ((q.contains_variableNames name).mpr mem))

theorem answer_eq_of_agreement : r.answer q = s.answer q := by
  have related := Correspondence.query_related
    (agreeing_agreement functions config fields bindings) 0 q (List.Subset.refl _)
    (List.Subset.refl _)
  exact congrArg ExceptT.run related

/-- Records of the same functions and configuration answer a query alike if the fields and the
variables that it names agree on them, where a field that is missing counts as null. -/
theorem satisfies_eq_of_agreement (hr : Reached r) (hs : Reached s) :
    r.satisfies q = s.satisfies q := by
  rw [hr.coherent.satisfies_eq, hs.coherent.satisfies_eq]
  exact answer_eq_of_agreement functions config fields bindings

end

theorem satisfies_eq_of_agreement_on_c :
    ∃ (r s : Record) (q : Query), q = .single (.compare (.property "c") .eq (.binding "$n")) ∧
      Reached r ∧ Reached s ∧ r.get? "a" = some (.int 1) ∧ s.get? "a" = none ∧
      r.get? "c" = none ∧ s.get? "c" = some .null ∧ r.satisfies q = s.satisfies q := by
  let r := (ofFlat [("a", .int 1)]).bind "n" (.int 1)
  let s := (ofFlat [("b", .int 2), ("c", .null)]).bind "$n" (.int 1)
  let q : Query := .single (.compare (.property "c") .eq (.binding "$n"))
  have hr : Reached r := .next (.bind "n" (.int 1)) (.ofFlat _)
  have hs : Reached s := .next (.bind "$n" (.int 1)) (.ofFlat _)
  have fields : ∀ path, q.properties.contains path = true →
      (r.get? path).getD .null = (s.get? path).getD .null := by
    intro path mem
    have eq : path = "c" := List.mem_singleton.mp ((q.contains_properties path).mp mem)
    subst eq
    rfl
  have bindings : ∀ name, q.variableNames.contains name = true →
      r.scope.bindings.find? name = s.scope.bindings.find? name := by
    intro name mem
    have eq : name = "n" := List.mem_singleton.mp ((q.contains_variableNames name).mp mem)
    subst eq
    rfl
  exact ⟨r, s, q, rfl, hr, hs, rfl, rfl, rfl, rfl,
    satisfies_eq_of_agreement rfl rfl fields bindings hr hs⟩

end Record

end FlatRecord
