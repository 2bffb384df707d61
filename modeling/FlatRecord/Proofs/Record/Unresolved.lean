import FlatRecord.Proofs.Record.Failure
import FlatRecord.Proofs.Record.Relevance

namespace FlatRecord

/-- An error that names no variable as unresolved, except one of the given names that has no
value. -/
def EvalError.Accounted (scope : Scope) (names : List String) (e : EvalError) : Prop :=
  ∀ name, e = .unresolvedVariable name → name ∈ names ∧ scope.bindings.find? name = none

theorem EvalError.accounted_of_isOfOperator {scope : Scope} {names : List String} {e : EvalError}
    (h : e.isOfOperator = true) : e.Accounted scope names := by
  rintro name rfl
  cases h

theorem Scope.lookup_accounted {scope : Scope} {names : List String} {name : String}
    (named : plainName name ∈ names) {e : EvalError} (h : scope.lookup name = .error e) :
    e.Accounted scope names := by
  unfold lookup at h
  cases found : scope.bindings.find? (plainName name) with
  | some v =>
    rw [found] at h
    cases h
  | none =>
    rw [found] at h
    cases h
    rintro _ ⟨⟩
    exact ⟨named, found⟩

/-- No function of a user fails by naming a variable as unresolved. -/
def Registry.NeverUnresolved (r : Registry) : Prop :=
  ∀ name f, r.get? name = some f →
    ∀ args unresolved, f args ≠ .error (.unresolvedVariable unresolved)

theorem Registry.neverUnresolved_iff {r : Registry} :
    r.NeverUnresolved ↔ r.FailsOnly fun e => ∀ name, e ≠ .unresolvedVariable name := by
  constructor
  · rintro never name f user args _ failed unresolved rfl
    exact never name f user args unresolved failed
  · intro only name f user args unresolved failed
    exact only name f user args _ failed unresolved rfl

theorem Registry.neverUnresolved_empty : NeverUnresolved {} := neverUnresolved_iff.mpr failsOnly_empty

theorem Registry.NeverUnresolved.register {r : Registry} (never : r.NeverUnresolved)
    (name : String) {f : Function} (total : ∀ args, ∃ v, f args = .ok v) :
    (r.register name f).NeverUnresolved :=
  neverUnresolved_iff.mpr ((neverUnresolved_iff.mp never).register name total)

theorem Registry.NeverUnresolved.call_accounted {r : Registry} (never : r.NeverUnresolved)
    {scope : Scope} {names : List String} {name : String} {args : List Value} {e : EvalError}
    (h : r.call name args = .error e) : e.Accounted scope names := by
  rintro unresolved rfl
  have other := (neverUnresolved_iff.mp never).call (fun _ _ _ => nofun) (fun _ _ => nofun) h
  exact absurd rfl (other unresolved)

namespace Record

/-- Every step of a query fails only with errors that are accounted for. -/
def accounting (scope : Scope) (never : scope.functions.NeverUnresolved)
    (paths names : List String) : Simulation source source scope scope paths names :=
  failing (EvalError.Accounted scope names) scope paths names
    (fun _ => EvalError.accounted_of_isOfOperator)
    (fun _ named _ => Scope.lookup_accounted named) (fun _ _ _ => never.call_accounted)

theorem satisfies_accounted {r : Record} (never : r.scope.functions.NeverUnresolved) (q : Query)
    {e : EvalError} (h : r.satisfies q = .error e) : e.Accounted r.scope q.names := by
  have guarded : (accounting r.scope never q.paths q.names).Guarded 0 0 q.height := by
    intro level _
    apply failsOnly_guardDepth
    rintro _ _ ⟨⟩
  exact Simulation.query_related _ q (List.Subset.refl _) (List.Subset.refl _) guarded r e h

/-- A variable that is found unresolved is one that the query names and that has no value. So a
query of which all variables have values finds none unresolved on any row. -/
theorem unresolved_named_and_unbound {r : Record} (never : r.scope.functions.NeverUnresolved)
    (q : Query) :
    (∀ name, r.satisfies q = .error (.unresolvedVariable name) →
      q.variableNames.contains name = true ∧ r.scope.bindings.find? name = none) ∧
    ((∀ name, q.variableNames.contains name = true → r.scope.bindings.contains name = true) →
      ∀ row : Record, row.scope.functions = r.scope.functions →
        row.scope.bindings = r.scope.bindings →
          ∀ name, row.satisfies q ≠ .error (.unresolvedVariable name)) := by
  constructor
  · intro name failed
    rw [q.contains_variableNames]
    exact satisfies_accounted never q failed name rfl
  · intro bound row functions bindings name failed
    rw [← functions] at never
    obtain ⟨named, unbound⟩ := satisfies_accounted never q failed name rfl
    have value := bound name ((q.contains_variableNames name).mpr named)
    rw [KeyMap.contains, ← bindings, unbound] at value
    cases value

/-- A variable of two dollar signs keeps one of them in its name, and is found under that name. -/
theorem unresolved_named_and_unbound_dollars :
    ∃ (r s : Record) (q : Query),
      q = (Query.all [.isNotNull (.binding "n"), .isNotNull (.binding "$n")]).withSubQuery
        (.any [.isNotNull (.call "same" [.binding "$$n"])]) ∧
      r.scope.functions.NeverUnresolved ∧
      r.satisfies q = .error (.unresolvedVariable "$n") ∧
      q.variableNames.contains "$n" = true ∧ r.scope.bindings.find? "$n" = none ∧
      s.satisfies q = .ok true ∧
      ∀ row : Record, row.scope.functions = s.scope.functions →
        row.scope.bindings = s.scope.bindings →
          ∀ name, row.satisfies q ≠ .error (.unresolvedVariable name) := by
  let r := (empty.register "same" fun args => .ok (args.headD .null)).bind "$n" (.int 1)
  let s := r.bind "$$n" (.int 3)
  let q := (Query.all [.isNotNull (.binding "n"), .isNotNull (.binding "$n")]).withSubQuery
    (.any [.isNotNull (.call "same" [.binding "$$n"])])
  have never : r.scope.functions.NeverUnresolved :=
    Registry.neverUnresolved_empty.register "same" fun _ => ⟨_, rfl⟩
  have unresolved : r.satisfies q = .error (.unresolvedVariable "$n") := rfl
  obtain ⟨named, unbound⟩ := (unresolved_named_and_unbound never q).1 "$n" unresolved
  have bound : ∀ name, q.variableNames.contains name = true →
      s.scope.bindings.contains name = true := by
    intro name mem
    have name_mem : name ∈ ["n", "n", "$n"] := (q.contains_variableNames name).mp mem
    simp only [List.mem_cons, List.not_mem_nil, or_false] at name_mem
    rcases name_mem with rfl | rfl | rfl <;> rfl
  exact ⟨r, s, q, rfl, never, unresolved, named, unbound, rfl,
    (unresolved_named_and_unbound never q (r := s)).2 bound⟩

end Record

end FlatRecord
