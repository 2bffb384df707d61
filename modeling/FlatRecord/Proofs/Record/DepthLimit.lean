import FlatRecord.Proofs.Record.Coherent
import FlatRecord.Proofs.Record.Failure

namespace FlatRecord

/-- Not the error of the depth limit. -/
def EvalError.Shallow (e : EvalError) : Prop := ∀ limit, e ≠ .depthExceeded limit

theorem EvalError.shallow_of_isOfOperator {e : EvalError} (h : e.isOfOperator = true) :
    e.Shallow := by
  rintro limit rfl
  cases h

theorem Scope.lookup_shallow {scope : Scope} {name : String} {e : EvalError}
    (h : scope.lookup name = .error e) : e.Shallow := by
  rintro limit rfl
  unfold lookup at h
  split at h <;> cases h

namespace Record

def withLimit (r : Record) (limit : UInt64) : Record :=
  r.withConfig { r.scope.config with maxDepth := limit }

theorem Reached.withLimit {r : Record} (reached : Reached r) (limit : UInt64) :
    Reached (r.withLimit limit) :=
  .next (.withConfig { r.scope.config with maxDepth := limit }) reached

/-- Every step of a query, the guard of the depth apart, fails only with other errors than that of
the depth limit. -/
def shallow (scope : Scope) (only : scope.functions.FailsOnly EvalError.Shallow)
    (paths names : List String) : Simulation source source scope scope paths names :=
  failing EvalError.Shallow scope paths names (fun _ => EvalError.shallow_of_isOfOperator)
    (fun _ _ _ => Scope.lookup_shallow)
    (fun _ _ _ => only.call (fun _ _ _ => nofun) fun _ _ => nofun)

/-- A query of which no node lies deeper than the limit is not cut off. -/
theorem not_cutOff_of_height {r : Record} (only : r.scope.functions.FailsOnly EvalError.Shallow)
    {q : Query} (h : q.height ≤ r.scope.config.maxDepth.toNat) : ¬CutOff (r.satisfies q) := by
  rintro ⟨limit, cut⟩
  have guarded : (shallow r.scope only q.paths q.names).Guarded 0 0 q.height := by
    intro level le
    apply failsOnly_guardDepth
    omega
  have other := Simulation.query_related _ q (List.Subset.refl _) (List.Subset.refl _) guarded
  exact other r _ cut limit rfl

/-- An answer that was not cut off at a limit is the same at a higher one, a query is not cut off
if no node of it lies deeper than the limit, and no term is resolved that reaches deeper. -/
theorem limit_only_cuts_off {r : Record} (reached : Reached r) {limit limit' : UInt64}
    (le : limit ≤ limit') :
    (∀ q, ¬CutOff ((r.withLimit limit).satisfies q) →
      (r.withLimit limit').satisfies q = (r.withLimit limit).satisfies q) ∧
    (r.scope.functions.FailsOnly EvalError.Shallow → ∀ q : Query, q.height ≤ limit.toNat →
      ¬CutOff ((r.withLimit limit).satisfies q)) ∧
    ∀ (t : Term) v, (r.withLimit limit).resolve t = .ok v → t.height ≤ limit.toNat := by
  have faithful := (reached.withLimit limit).coherent.toFaithful
  have faithful' := (reached.withLimit limit').coherent.toFaithful
  have bound : limit.toNat ≤ limit'.toNat := UInt64.le_iff_toNat_le.mp le
  refine ⟨?_, fun only q h => not_cutOff_of_height (r := r.withLimit limit) only h, ?_⟩
  · intro q whole
    rw [faithful.satisfies_eq] at whole ⊢
    rw [faithful'.satisfies_eq]
    have shallow : 0 + limit.toNat ≤ 0 + limit'.toNat := by omega
    exact congrArg ExceptT.run (Query.eval_unlessCutOff r.plainSource shallow q whole)
  · intro t v resolved
    rw [resolve_eq, faithful.termAt_eq] at resolved
    have within := Term.height_le_of_resolve _ resolved
    rwa [Nat.zero_add] at within

/-- The deepest node of the query is the field, four levels below it. -/
theorem limit_only_cuts_off_at_four :
    ∃ (r : Record) (t : Term) (q : Query), Reached r ∧ q = .single (.isNotNull t) ∧
      t = .call "same" [.cast "bool" (.property "a")] ∧ q.height = 4 ∧
      (r.withLimit 3).satisfies q = .error (.depthExceeded 3) ∧
      ¬CutOff ((r.withLimit 4).satisfies q) ∧
      (r.withLimit 64).satisfies q = (r.withLimit 4).satisfies q ∧
      (r.withLimit 2).resolve t = .ok (.bool true) ∧ t.height ≤ 2 := by
  let r := (ofFlat [("a", .int 1)]).register "same" fun args => .ok (args.headD .null)
  let t : Term := .call "same" [.cast "bool" (.property "a")]
  let q : Query := .single (.isNotNull t)
  have reached : Reached r := .next (.register "same" _) (.ofFlat _)
  have only : r.scope.functions.FailsOnly EvalError.Shallow :=
    Registry.failsOnly_empty.register "same" fun _ => ⟨_, rfl⟩
  have value : (r.withLimit 2).resolve t = .ok (.bool true) := rfl
  obtain ⟨same, shallow, _⟩ := limit_only_cuts_off reached (show (4 : UInt64) ≤ 64 by decide)
  have whole := shallow only q (by decide)
  exact ⟨r, t, q, reached, rfl, rfl, rfl, rfl, whole, same q whole, value,
    (limit_only_cuts_off reached (UInt64.le_refl _)).2.2 t _ value⟩

end Record

end FlatRecord
