import FlatRecord.Proofs.Evaluation.Limit

namespace FlatRecord

variable {source : Source Id} {scope : Scope} {depth : Nat}

theorem Evaluation.run_ofExcept {α : Type} (x : Except EvalError α) :
    (Evaluation.ofExcept x : Evaluation Id α).run = x := by
  cases x <;> rfl

namespace Term

theorem within_of_resolve {t : Term} {v : Value} (h : t.resolve source scope depth = pure v) :
    depth ≤ scope.config.maxDepth.toNat :=
  Nat.le_of_add_right_le (height_le_of_resolve source (congrArg ExceptT.run h))

theorem resolve_null (source : Source Id) (h : depth ≤ scope.config.maxDepth.toNat) :
    (Term.literal .null).resolve source scope depth = pure .null := by
  rw [resolve, Scope.guardDepth_eq_pure h, pure_bind]

theorem resolveAll_eq_pure {ts : List Term} {value : Term → Value}
    (h : ∀ t ∈ ts, t.resolve source scope depth = pure (value t)) :
    resolveAll source scope depth ts = pure (ts.map value) := by
  induction ts with
  | nil => rw [resolveAll, List.map_nil]
  | cons t ts ih =>
    obtain ⟨head, tail⟩ := List.forall_mem_cons.mp h
    rw [resolveAll, head, pure_bind, ih tail, pure_bind, List.map_cons]

section Operand

variable {t : Term} {v : Value} (operand : t.resolve source scope (depth + 1) = pure v)
include operand

theorem resolve_cast {target : String} (known : (FieldType.ofName target).isKnown = true) :
    (cast target t).resolve source scope depth =
      .ofExcept ((v.coerce (.ofName target)).mapError .conversion) := by
  have within := Nat.le_of_succ_le (within_of_resolve operand)
  rw [resolve, Scope.guardDepth_eq_pure within, pure_bind]
  simp only [known, ↓reduceIte, operand, pure_bind]

theorem resolve_arithmetic (op : ArithmeticOp) {u : Term} {w : Value}
    (right : u.resolve source scope (depth + 1) = pure w) :
    (arithmetic op t u).resolve source scope depth = .ofExcept (op.apply v w) := by
  have within := Nat.le_of_succ_le (within_of_resolve operand)
  rw [resolve, Scope.guardDepth_eq_pure within, pure_bind, operand, pure_bind, right, pure_bind]

end Operand

end Term

namespace Condition

theorem resolveCandidates_eq_pure {c : Condition} {value : Term → Value}
    (candidates : ∀ s ∈ c.candidates, s.resolve source scope depth = pure (value s))
    (filled : c.candidates ≠ []) :
    c.resolveCandidates source scope depth = pure (c.candidates.map value) := by
  have listed : c.candidates.isEmpty = false := List.isEmpty_eq_false_iff.mpr filled
  rw [resolveCandidates, listed]
  exact Term.resolveAll_eq_pure candidates

section Operators

variable {c : Condition} {v : Value} (left : c.left.resolve source scope depth = pure v)
include left

theorem evalNull_eq_pure : c.evalNull source scope depth = pure v.isNull := by
  rw [evalNull, left, pure_bind]

theorem evalComparison_eq_pure {w : Value} (right : c.right.resolve source scope depth = pure w)
    {b : Bool} (h : Value.compare c.op v w = .ok b) :
    c.evalComparison source scope depth = pure b := by
  rw [evalComparison, left, pure_bind, right, pure_bind, h]
  rfl

theorem evalContains_eq_pure {w : Value} (right : c.right.resolve source scope depth = pure w)
    {b : Bool} (h : v.holds w = .ok b) : c.evalContains source scope depth = pure b := by
  rw [evalContains, left, pure_bind, right, pure_bind, h]
  rfl

theorem evalBetween_eq_pure {low high : Term} (lowest : c.lower = some low)
    (highest : c.upper = some high) {x y : Value}
    (lower : low.resolve source scope depth = pure x)
    (upper : high.resolve source scope depth = pure y) {above below : Bool}
    (ge : Value.compare .ge v x = .ok above) (le : Value.compare .le v y = .ok below) :
    c.evalBetween source scope depth = pure (above && below) := by
  unfold evalBetween
  simp only [lowest, highest, left, lower, upper, pure_bind, ge, le]
  cases above <;> rfl

theorem evalIn_eq_pure {candidates : List Value}
    (resolved : c.resolveCandidates source scope depth = pure candidates) :
    c.evalIn source scope depth = pure (candidates.any fun w => v.equal w) := by
  rw [evalIn, left, pure_bind, resolved, pure_bind]

theorem evalAnyOf_null (null : v = .null) :
    c.evalAnyOf source scope depth = pure false := by
  rw [evalAnyOf, left, pure_bind, null]
  rfl

theorem evalAnyOf_eq_pure {items candidates : List Value} (elements : v.elements? = some items)
    (resolved : c.resolveCandidates source scope depth = pure candidates) :
    c.evalAnyOf source scope depth =
      pure (items.any fun x => candidates.any fun w => x.equal w) := by
  have present : v.isNull = false := by
    cases v with
    | null => cases elements
    | _ => rfl
  rw [evalAnyOf, left, pure_bind, present, elements]
  simp only [Bool.false_eq_true, ↓reduceIte, resolved, pure_bind]

end Operators

theorem evalOperator_of_isComparison {c : Condition} (comparison : c.op.isComparison = true) :
    c.evalOperator source scope depth = c.evalComparison source scope depth := by
  unfold evalOperator
  cases op : c.op with
  | eq | ne | gt | lt | ge | le => rfl
  | _ =>
    rw [op] at comparison
    cases comparison

section Eval

variable {c : Condition} {v : Value} (left : c.left.resolve source scope (depth + 1) = pure v)
  {b : Bool} (operator : c.evalOperator source scope (depth + 1) = pure b)
include left operator

/-- The left term lies deeper than the condition, so the depth of this is within the limit. -/
theorem eval_eq_pure : c.eval source scope depth = pure (b != c.negate) := by
  have within := Nat.le_of_succ_le (Term.within_of_resolve left)
  rw [eval, Scope.guardDepth_eq_pure within, pure_bind, operator, pure_bind]

theorem eval_plain (plain : c.negate = false) : c.eval source scope depth = pure b := by
  rw [eval_eq_pure left operator, plain, Bool.bne_false]

end Eval

end Condition

end FlatRecord
