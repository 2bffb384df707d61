import FlatRecord.Record.Eval

namespace FlatRecord

mutual

/-- The query with AND and OR exchanged at every level and every condition negated. -/
def Query.dual : Query → Query
  | .mk isOr conditions subQueries =>
    .mk (!isOr) (conditions.map Condition.negated) (Query.listDual subQueries)
termination_by structural q => q

def Query.listDual : List Query → List Query
  | [] => []
  | q :: qs => q.dual :: Query.listDual qs
termination_by structural qs => qs

end

mutual

/-- Neither the query nor one below it, at any depth, is empty. -/
def Query.Populated : Query → Prop
  | .mk isOr conditions subQueries =>
    (Query.mk isOr conditions subQueries).isEmpty = false ∧ Query.ListPopulated subQueries
termination_by structural q => q

def Query.ListPopulated : List Query → Prop
  | [] => True
  | q :: qs => q.Populated ∧ Query.ListPopulated qs
termination_by structural qs => qs

end

theorem Query.isEmpty_listDual (qs : List Query) : (listDual qs).isEmpty = qs.isEmpty := by
  cases qs <;> rfl

section

variable {m : Type → Type} [Monad m] [LawfulMonad m] (source : Source m) (scope : Scope)

theorem Condition.eval_negated (depth : Nat) (c : Condition) :
    c.negated.eval source scope depth = (! ·) <$> c.eval source scope depth := by
  have operator : c.negated.evalOperator source scope (depth + 1) =
      c.evalOperator source scope (depth + 1) := rfl
  have flag : c.negated.negate = !c.negate := rfl
  unfold Condition.eval
  rw [operator, flag, map_bind]
  apply bind_congr
  intro _
  rw [map_bind]
  apply bind_congr
  intro holds
  rw [map_pure, Bool.bne_not]

theorem branch_self (x : Evaluation m Bool) :
    (x >>= fun holds => if holds then pure true else pure false) = x := by
  calc (x >>= fun holds => if holds then pure true else pure false)
      = x >>= pure := by
        apply bind_congr
        intro holds
        cases holds <;> rfl
    _ = x := bind_pure x

/-- To take the first branch where a negated answer holds is to take the second where the answer
does. -/
theorem branch_not {α : Type} (x : Evaluation m Bool) (a b : Evaluation m α) :
    (((! ·) <$> x) >>= fun holds => if holds then a else b) =
      x >>= fun holds => if holds then b else a := by
  rw [bind_map_left]
  apply bind_congr
  intro holds
  cases holds <;> rfl

theorem map_branch {α β : Type} (f : α → β) (x : Evaluation m Bool) (a b : Evaluation m α) :
    f <$> (x >>= fun holds => if holds then a else b) =
      x >>= fun holds => if holds then f <$> a else f <$> b := by
  rw [map_bind]
  apply bind_congr
  intro holds
  cases holds <;> rfl

/-- Some negated condition holds unless all of the conditions do, which is settled at the same
condition. -/
theorem Condition.someHold_negated (depth : Nat) (cs : List Condition) :
    Condition.someHold source scope depth (cs.map Condition.negated) =
      (! ·) <$> Condition.allHold source scope depth cs := by
  induction cs with
  | nil =>
    rw [List.map_nil, Condition.someHold, Condition.allHold, map_pure]
    rfl
  | cons c cs ih =>
    rw [List.map_cons, Condition.someHold, Condition.allHold, eval_negated, branch_not, ih,
      map_branch, map_pure]
    rfl

theorem Condition.allHold_negated (depth : Nat) (cs : List Condition) :
    Condition.allHold source scope depth (cs.map Condition.negated) =
      (! ·) <$> Condition.someHold source scope depth cs := by
  induction cs with
  | nil =>
    rw [List.map_nil, Condition.allHold, Condition.someHold, map_pure]
    rfl
  | cons c cs ih =>
    rw [List.map_cons, Condition.allHold, Condition.someHold, eval_negated, branch_not, ih,
      map_branch, map_pure]
    rfl

mutual

/-- The dual of a query is evaluated by the same steps and gives the opposite answer. -/
theorem Query.eval_dual (depth : Nat) : ∀ q : Query, q.Populated →
    q.dual.eval source scope depth = (! ·) <$> q.eval source scope depth
  | .mk true conditions subQueries, populated => by
    obtain ⟨some, below⟩ := populated
    -- An OR that is not empty ends without holding, as its dual ends with holding.
    have empty : (conditions.isEmpty && subQueries.isEmpty) = false := some
    have conds := Condition.allHold_negated source scope (depth + 1) conditions
    have subs := Query.allHold_dual (depth + 1) subQueries below
    rw [Query.dual, Query.eval, Query.eval, map_bind]
    apply bind_congr
    intro _
    simp only [Bool.not_true, Bool.false_eq_true, ↓reduceIte, empty, branch_self]
    rw [conds, branch_not, subs, map_branch, map_pure]
    rfl
  | .mk false conditions subQueries, populated => by
    obtain ⟨some, below⟩ := populated
    have empty : ((conditions.map Condition.negated).isEmpty &&
        (Query.listDual subQueries).isEmpty) = false := by
      rw [List.isEmpty_map, Query.isEmpty_listDual]
      exact some
    have conds := Condition.someHold_negated source scope (depth + 1) conditions
    have subs := Query.someHold_dual (depth + 1) subQueries below
    rw [Query.dual, Query.eval, Query.eval, map_bind]
    apply bind_congr
    intro _
    simp only [Bool.not_false, Bool.false_eq_true, ↓reduceIte, empty, branch_self]
    rw [conds, branch_not, subs, map_branch, map_pure]
    rfl
termination_by structural q => q

theorem Query.someHold_dual (depth : Nat) : ∀ qs : List Query, Query.ListPopulated qs →
    Query.someHold source scope depth (Query.listDual qs) =
      (! ·) <$> Query.allHold source scope depth qs
  | [], _ => by
    rw [Query.listDual, Query.someHold, Query.allHold, map_pure]
    rfl
  | q :: qs, populated => by
    rw [Query.listDual, Query.someHold, Query.allHold, Query.eval_dual depth q populated.1,
      branch_not, Query.someHold_dual depth qs populated.2, map_branch, map_pure]
    rfl
termination_by structural qs => qs

theorem Query.allHold_dual (depth : Nat) : ∀ qs : List Query, Query.ListPopulated qs →
    Query.allHold source scope depth (Query.listDual qs) =
      (! ·) <$> Query.someHold source scope depth qs
  | [], _ => by
    rw [Query.listDual, Query.allHold, Query.someHold, map_pure]
    rfl
  | q :: qs, populated => by
    rw [Query.listDual, Query.allHold, Query.someHold, Query.eval_dual depth q populated.1,
      branch_not, Query.allHold_dual depth qs populated.2, map_branch, map_pure]
    rfl
termination_by structural qs => qs

end

end

/-- One outcome is the opposite answer where the other is an answer, and the same error where the
other is an error. -/
structure Opposite (x y : Except EvalError Bool) : Prop where
  ok_iff : ∀ b, x = .ok (!b) ↔ y = .ok b
  error_iff : ∀ e, x = .error e ↔ y = .error e

theorem opposite_map_not (x : Except EvalError Bool) : Opposite (x.map (! ·)) x := by
  cases x <;> constructor <;> simp [Except.map]

namespace Record

theorem run_map {α β : Type} (r : Record) (f : α → β) (e : Scope → Evaluation (StateM Record) α) :
    (r.run fun scope => f <$> e scope) = ((r.run e).1.map f, (r.run e).2) := by
  unfold run
  rw [ExceptT.run_map]
  rfl

/-- The dual of a query leaves in the record what the query leaves in it. -/
theorem evalQuery_dual {q : Query} (populated : q.Populated) (r : Record) :
    r.evalQuery q.dual = ((r.evalQuery q).1.map (! ·), (r.evalQuery q).2) := by
  unfold evalQuery
  rw [← run_map]
  apply congrArg r.run
  funext scope
  exact Query.eval_dual source scope 0 q populated

theorem run_eval_negated (r : Record) (depth : Nat) (c : Condition) :
    (r.run fun scope => c.negated.eval source scope depth) =
      ((r.run fun scope => c.eval source scope depth).1.map (! ·),
        (r.run fun scope => c.eval source scope depth).2) := by
  rw [← run_map]
  apply congrArg r.run
  funext scope
  exact Condition.eval_negated source scope depth c

/-- To exchange AND and OR at every level and negate every condition is to negate the answer, if no
level is empty; errors stay. A condition that is negated by itself gives the opposite answer or the
same error at every place of a query. -/
theorem satisfies_dual {q : Query} (populated : q.Populated) (r : Record) :
    Opposite (r.satisfies q.dual) (r.satisfies q) ∧
    ∀ (depth : Nat) (c : Condition),
      Opposite (r.run fun scope => c.negated.eval source scope depth).1
        (r.run fun scope => c.eval source scope depth).1 := by
  constructor
  · unfold satisfies
    rw [evalQuery_dual populated]
    exact opposite_map_not _
  · intro depth c
    rw [run_eval_negated]
    exact opposite_map_not _

/-- An answer that is settled before an unbound variable is reached, and one that is not. -/
theorem satisfies_dual_unbound :
    ∃ (r : Record) (settled failing : Query), settled.Populated ∧ failing.Populated ∧
      r.satisfies settled = .ok true ∧ r.satisfies settled.dual = .ok false ∧
      r.satisfies failing = .error (.unresolvedVariable "x") ∧
      r.satisfies failing.dual = .error (.unresolvedVariable "x") := by
  let present : Condition := .isNotNull (.property "a")
  let unbound : Condition := .isNull (.binding "$x")
  let r := ofFlat [("a", .int 1)]
  let settled : Query := .mk true [present.negated] [.all [present], .any [unbound]]
  let failing : Query := .mk false [present] [.mk true [] [.any [unbound], .all [present]]]
  have hs : settled.Populated := ⟨rfl, ⟨rfl, trivial⟩, ⟨rfl, trivial⟩, trivial⟩
  have hf : failing.Populated := ⟨rfl, ⟨rfl, ⟨rfl, trivial⟩, ⟨rfl, trivial⟩, trivial⟩, trivial⟩
  have answer : r.satisfies settled = .ok true := rfl
  have error : r.satisfies failing = .error (.unresolvedVariable "x") := rfl
  exact ⟨r, settled, failing, hs, hf, answer, ((satisfies_dual hs r).1.ok_iff true).mpr answer,
    error, ((satisfies_dual hf r).1.error_iff _).mpr error⟩

end Record

end FlatRecord
