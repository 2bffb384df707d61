import FlatRecord.Proofs.Evaluation.Resolved
import FlatRecord.Proofs.Record.Relevance
import FlatRecord.Proofs.Value.Spelled

namespace FlatRecord

open Value (Spelled)

/-- Evaluations that give related results or fail with the same error. -/
inductive Evaluation.Matching {α β : Type} (R : α → β → Prop) :
    Evaluation Id α → Evaluation Id β → Prop
  | pure {a : α} {b : β} : R a b → Matching R (pure a) (pure b)
  | throw (e : EvalError) : Matching R (throw e) (throw e)

namespace Evaluation.Matching

variable {α β γ δ : Type} {R : α → β → Prop} {S : γ → δ → Prop}

theorem bind {x : Evaluation Id α} {y : Evaluation Id β} {f : α → Evaluation Id γ}
    {g : β → Evaluation Id δ} (h : Matching R x y) (next : ∀ a b, R a b → Matching S (f a) (g b)) :
    Matching S (x >>= f) (y >>= g) := by
  cases h with
  | pure related =>
    rw [pure_bind, pure_bind]
    exact next _ _ related
  | throw e => exact .throw e

theorem refl {R : α → α → Prop} (same : ∀ a, R a a) (x : Evaluation Id α) : Matching R x x := by
  cases out : x.run with
  | ok a =>
    have shape : x = Pure.pure a := out
    rw [shape]
    exact .pure (same a)
  | error e =>
    have shape : x = MonadExcept.throw e := out
    rw [shape]
    exact .throw e

theorem of_eq {x y : Evaluation Id α} (h : x = y) : Matching Eq x y := h ▸ refl (fun _ => rfl) x

theorem eq {x y : Evaluation Id α} (h : Matching Eq x y) : x = y := by
  cases h with
  | pure same => rw [same]
  | throw e => rfl

/-- What stands behind the same check matches if it does so by itself. -/
theorem guarded {scope : Scope} {depth : Nat} {x : Evaluation Id γ} {y : Evaluation Id δ}
    (h : Matching S x y) :
    Matching S (scope.guardDepth depth >>= fun _ => x) (scope.guardDepth depth >>= fun _ => y) :=
  (of_eq rfl).bind fun _ _ _ => h

end Evaluation.Matching

open Evaluation (Matching)

/-- The fields whose values a term passes to a function or to a cast. -/
def Term.passed : Term → List String
  | .call _ args => listPaths args
  | .arithmetic _ left right => left.passed ++ right.passed
  | .cast _ term => term.paths
  | _ => []
termination_by structural t => t

def Condition.passed (c : Condition) : List String := c.terms.flatMap Term.passed

namespace Record

/-- A record shows a term what another does, except that numbers may be spelled as texts where no
function and no cast is given them. -/
structure Respelled (r s : Record) (t : Term) : Prop where
  field : ∀ path ∈ t.paths, Spelled ((r.get? path).getD .null) ((s.get? path).getD .null)
  passed : ∀ path ∈ t.passed, (r.get? path).getD .null = (s.get? path).getD .null

variable {r s : Record} (scope : Scope) (depth : Nat)

theorem resolve_eq_of_fields {t : Term}
    (fields : ∀ path ∈ t.paths, (r.get? path).getD .null = (s.get? path).getD .null) :
    t.resolve r.plainSource scope depth = t.resolve s.plainSource scope depth :=
  Correspondence.resolve_related (agreeing_of_shared rfl rfl fields fun _ _ => rfl) depth t
    (List.Subset.refl _) (List.Subset.refl _)

/-- Arithmetic reads numbers and their texts alike, so that only the fields themselves differ. -/
theorem resolve_matching (depth : Nat) : ∀ t : Term, Respelled r s t →
    Matching Spelled (t.resolve r.plainSource scope depth) (t.resolve s.plainSource scope depth)
  | .property path, shown => by
    rw [Term.resolve, Term.resolve]
    exact .guarded (.pure (shown.field path (by simp [Term.paths])))
  | .arithmetic op left right, shown => by
    obtain ⟨field, passed⟩ := shown
    rw [Term.paths] at field
    rw [Term.passed] at passed
    obtain ⟨fieldLeft, fieldRight⟩ := List.forall_mem_append.mp field
    obtain ⟨passedLeft, passedRight⟩ := List.forall_mem_append.mp passed
    rw [Term.resolve, Term.resolve]
    apply Matching.guarded
    apply (resolve_matching (depth + 1) left ⟨fieldLeft, passedLeft⟩).bind
    intro v v' spelledLeft
    apply (resolve_matching (depth + 1) right ⟨fieldRight, passedRight⟩).bind
    intro w w' spelledRight
    rw [spelledLeft.apply_eq spelledRight op]
    exact .refl .same _
  | .call name args, shown => by
    rw [resolve_eq_of_fields scope depth (t := .call name args) shown.passed]
    exact .refl .same _
  | .cast target term, shown => by
    rw [resolve_eq_of_fields scope depth (t := .cast target term) shown.passed]
    exact .refl .same _
  | .literal v, _ => .refl .same _
  | .binding name, _ => .refl .same _
  | .dateTime name, _ => .refl .same _
termination_by structural t => t

theorem resolveAll_matching {ts : List Term} (shown : ∀ t ∈ ts, Respelled r s t) :
    Matching (List.Forall₂ Spelled) (Term.resolveAll r.plainSource scope depth ts)
      (Term.resolveAll s.plainSource scope depth ts) := by
  induction ts with
  | nil => exact .pure .nil
  | cons t ts ih =>
    obtain ⟨head, tail⟩ := List.forall_mem_cons.mp shown
    rw [Term.resolveAll, Term.resolveAll]
    apply (resolve_matching scope depth t head).bind
    intro v w first
    apply (ih tail).bind
    intro vs ws rest
    exact .pure (.cons first rest)

section Condition

variable {c : Condition} (shown : ∀ t ∈ c.terms, Respelled r s t)
include shown

theorem operand_matching {t : Term} (mem : t ∈ c.terms) :
    Matching Spelled (t.resolve r.plainSource scope depth)
      (t.resolve s.plainSource scope depth) :=
  resolve_matching scope depth t (shown t mem)

theorem resolveCandidates_matching :
    Matching (List.Forall₂ Spelled) (c.resolveCandidates r.plainSource scope depth)
      (c.resolveCandidates s.plainSource scope depth) := by
  unfold Condition.resolveCandidates
  by_cases none : c.candidates.isEmpty
  · simp only [none, ↓reduceIte]
    apply (operand_matching scope depth shown (by simp [Condition.terms])).bind
    intro v w spelled
    exact .pure spelled.candidates
  · simp only [none]
    exact resolveAll_matching scope depth fun t mem => shown t (by simp [Condition.terms, mem])

theorem evalComparison_eq : c.evalComparison r.plainSource scope depth =
    c.evalComparison s.plainSource scope depth := by
  apply Matching.eq
  unfold Condition.evalComparison
  apply (operand_matching scope depth shown (by simp [Condition.terms])).bind
  intro v v' left
  apply (operand_matching scope depth shown (by simp [Condition.terms])).bind
  intro w w' right
  exact .of_eq (by rw [left.compare_eq right])

theorem evalIn_eq : c.evalIn r.plainSource scope depth =
    c.evalIn s.plainSource scope depth := by
  apply Matching.eq
  unfold Condition.evalIn
  apply (operand_matching scope depth shown (by simp [Condition.terms])).bind
  intro v v' left
  apply (resolveCandidates_matching scope depth shown).bind
  intro vs ws candidates
  exact .of_eq (by rw [left.any_equal_eq candidates])

theorem evalBetween_eq : c.evalBetween r.plainSource scope depth =
    c.evalBetween s.plainSource scope depth := by
  apply Matching.eq
  unfold Condition.evalBetween
  split
  next low high lowest highest =>
    apply (operand_matching scope depth shown (by simp [Condition.terms])).bind
    intro v v' left
    apply (operand_matching scope depth shown (by simp [Condition.terms, lowest])).bind
    intro x x' lower
    apply (operand_matching scope depth shown (by simp [Condition.terms, highest])).bind
    intro y y' upper
    exact .of_eq (by rw [left.compare_eq lower, left.compare_eq upper])
  next => exact .throw _

/-- A condition that compares its terms is answered alike. -/
theorem eval_eq_of_respelled
    (compares : c.op.isComparison = true ∨ c.op ∈ [.isIn, .notIn, .between]) :
    c.eval r.plainSource scope depth = c.eval s.plainSource scope depth := by
  have operator : c.evalOperator r.plainSource scope (depth + 1) =
      c.evalOperator s.plainSource scope (depth + 1) := by
    rcases compares with comparison | listed
    · rw [Condition.evalOperator_of_isComparison comparison,
        Condition.evalOperator_of_isComparison comparison, evalComparison_eq scope _ shown]
    · unfold Condition.evalOperator
      simp only [List.mem_cons, List.not_mem_nil, or_false] at listed
      rcases listed with op | op | op
      · rw [op]
        exact evalIn_eq scope _ shown
      · rw [op]
        exact congrArg (fun e => (! ·) <$> e) (evalIn_eq scope _ shown)
      · rw [op]
        exact evalBetween_eq scope _ shown
  rw [Condition.eval, Condition.eval, operator]

end Condition

end Record

end FlatRecord
