import FlatRecord.Query.Eval

namespace FlatRecord

variable {m : Type → Type} [Monad m]

/-- Evaluates parts one after the other until one gives the decisive answer. If none does, the
final answer is given. -/
def Evaluation.settle (decisive final : Bool) : List (Evaluation m Bool) → Evaluation m Bool
  | [] => return final
  | x :: xs => do
    let holds ← x
    if holds = decisive then return decisive else settle decisive final xs

namespace Query

/-- The evaluations of a query's conditions and of the queries within it, at their depth. -/
def parts (source : Source m) (scope : Scope) (depth : Nat) : Query → List (Evaluation m Bool)
  | .mk _ conditions subQueries =>
    conditions.map (Condition.eval source scope depth) ++
      subQueries.map (Query.eval source scope depth)

/-- The answer of a query that no part settles: it holds unless it is an OR of something. -/
def unsettled (q : Query) : Bool := !q.isOr || q.isEmpty

theorem unsettled_eq_not {isOr : Bool} {cs : List Condition} {qs : List Query}
    (occupied : isOr = true → cs ≠ [] ∨ qs ≠ []) : (mk isOr cs qs).unsettled = !isOr := by
  cases isOr with
  | false => rfl
  | true =>
    change (cs.isEmpty && qs.isEmpty) = false
    rcases occupied rfl with some | some
    · simp [some]
    · simp [some]

end Query

namespace Evaluation

variable [LawfulMonad m] (decisive final : Bool)

theorem settle_append (xs ys : List (Evaluation m Bool)) :
    settle decisive final (xs ++ ys) =
      settle decisive (!decisive) xs >>= fun holds =>
        if holds = decisive then pure decisive else settle decisive final ys := by
  induction xs with
  | nil => simp [settle]
  | cons x xs ih =>
    rw [List.cons_append, settle, settle, bind_assoc]
    apply bind_congr
    intro holds
    by_cases settled : holds = decisive
    · simp [settled]
    · simp [settled, ih]

/-- The final answer is all that counts after the other parts. -/
theorem settle_eq_bind (xs : List (Evaluation m Bool)) :
    settle decisive final xs =
      settle decisive (!decisive) xs >>= fun holds =>
        if holds = decisive then pure decisive else pure final := by
  have split := settle_append decisive final xs []
  rwa [List.append_nil] at split

theorem settle_single (x : Evaluation m Bool) : settle decisive (!decisive) [x] = x := by
  calc settle decisive (!decisive) [x] = x >>= pure := by
        apply bind_congr
        intro holds
        cases holds <;> cases decisive <;> rfl
    _ = x := bind_pure x

section Pure

variable {α : Type} {as : List α} {e : α → Evaluation m Bool} {p : α → Bool}
  (h : ∀ a ∈ as, e a = pure (p a))
include h

theorem settle_any : settle true false (as.map e) = pure (as.any p) := by
  induction as with
  | nil => rfl
  | cons a as ih =>
    obtain ⟨head, tail⟩ := List.forall_mem_cons.mp h
    rw [List.map_cons, settle, head, pure_bind, ih tail, List.any_cons]
    cases p a <;> rfl

theorem settle_all : settle false true (as.map e) = pure (as.all p) := by
  induction as with
  | nil => rfl
  | cons a as ih =>
    obtain ⟨head, tail⟩ := List.forall_mem_cons.mp h
    rw [List.map_cons, settle, head, pure_bind, ih tail, List.all_cons]
    cases p a <;> rfl

end Pure

end Evaluation

section

variable (source : Source m) (scope : Scope) (depth : Nat)

theorem Condition.someHold_eq_settle (cs : List Condition) :
    Condition.someHold source scope depth cs =
      Evaluation.settle true false (cs.map (Condition.eval source scope depth)) := by
  induction cs with
  | nil => rfl
  | cons c cs ih => rw [Condition.someHold, List.map_cons, Evaluation.settle, ih]

theorem Condition.allHold_eq_settle (cs : List Condition) :
    Condition.allHold source scope depth cs =
      Evaluation.settle false true (cs.map (Condition.eval source scope depth)) := by
  induction cs with
  | nil => rfl
  | cons c cs ih =>
    rw [Condition.allHold, List.map_cons, Evaluation.settle, ih]
    apply bind_congr
    intro holds
    cases holds <;> rfl

theorem Query.someHold_eq_settle (qs : List Query) :
    Query.someHold source scope depth qs =
      Evaluation.settle true false (qs.map (Query.eval source scope depth)) := by
  induction qs with
  | nil => rw [Query.someHold, List.map_nil, Evaluation.settle]
  | cons q qs ih => rw [Query.someHold, List.map_cons, Evaluation.settle, ih]

theorem Query.allHold_eq_settle (qs : List Query) :
    Query.allHold source scope depth qs =
      Evaluation.settle false true (qs.map (Query.eval source scope depth)) := by
  induction qs with
  | nil => rw [Query.allHold, List.map_nil, Evaluation.settle]
  | cons q qs ih =>
    rw [Query.allHold, List.map_cons, Evaluation.settle, ih]
    apply bind_congr
    intro holds
    cases holds <;> rfl

/-- A query is settled by its first part that holds, for an OR, or that does not, for an AND. -/
theorem Query.eval_eq_settle [LawfulMonad m] (q : Query) :
    q.eval source scope depth = scope.guardDepth depth >>= fun _ =>
      Evaluation.settle q.isOr q.unsettled (q.parts source scope (depth + 1)) := by
  obtain ⟨isOr, conditions, subQueries⟩ := q
  rw [Query.eval]
  apply bind_congr
  intro _
  rw [Query.parts, Evaluation.settle_append]
  cases isOr with
  | true =>
    have rest := Evaluation.settle_eq_bind true (Query.mk true conditions subQueries).unsettled
      (subQueries.map (Query.eval source scope (depth + 1)))
    rw [Query.isOr, rest, Condition.someHold_eq_settle, Query.someHold_eq_settle]
    rfl
  | false =>
    rw [Query.isOr, Condition.allHold_eq_settle, Query.allHold_eq_settle]
    apply bind_congr
    intro holds
    cases holds <;> rfl

theorem Query.eval_of_occupied [LawfulMonad m] {isOr : Bool} {cs : List Condition}
    {qs : List Query} (occupied : isOr = true → cs ≠ [] ∨ qs ≠ []) :
    (mk isOr cs qs).eval source scope depth = scope.guardDepth depth >>= fun _ =>
      Evaluation.settle isOr (!isOr) ((mk isOr cs qs).parts source scope (depth + 1)) := by
  rw [eval_eq_settle, unsettled_eq_not occupied]
  rfl

theorem Query.eval_all [LawfulMonad m] (cs : List Condition) :
    (all cs).eval source scope depth = scope.guardDepth depth >>= fun _ =>
      Evaluation.settle false true (cs.map (Condition.eval source scope (depth + 1))) := by
  have occupied : false = true → cs ≠ [] ∨ ([] : List Query) ≠ [] := fun eq => nomatch eq
  rw [all, eval_of_occupied _ _ _ occupied, parts, List.map_nil, List.append_nil]
  rfl

theorem Query.eval_any [LawfulMonad m] {cs : List Condition} (filled : cs ≠ []) :
    (any cs).eval source scope depth = scope.guardDepth depth >>= fun _ =>
      Evaluation.settle true false (cs.map (Condition.eval source scope (depth + 1))) := by
  rw [any, eval_of_occupied _ _ _ fun _ => .inl filled, parts, List.map_nil, List.append_nil]
  rfl

theorem Query.eval_single [LawfulMonad m] (c : Condition) :
    (single c).eval source scope depth =
      scope.guardDepth depth >>= fun _ => c.eval source scope (depth + 1) := by
  rw [single, eval_all]
  apply bind_congr
  intro _
  exact Evaluation.settle_single false _

end

end FlatRecord
