import FlatRecord.Query.Arithmetic
import FlatRecord.Scope
import FlatRecord.Value.Compare

namespace FlatRecord

/-- An evaluation that may fail, and whose effects on the source stay when it does. -/
abbrev Evaluation (m : Type → Type) (α : Type) := ExceptT EvalError m α

/-- Where a query finds field values and has patterns matched. -/
structure Source (m : Type → Type) where
  /-- The effective value of a field, null where there is none. -/
  field : String → m Value
  like : LikeMode → String → String → Evaluation m Bool

section Evaluation

variable {m : Type → Type} [Monad m] (source : Source m) (scope : Scope)

def Evaluation.ofExcept {α : Type} : Except EvalError α → Evaluation m α
  | .ok a => pure a
  | .error e => throw e

/-- Refuses what lies deeper than the configured limit. -/
def Scope.guardDepth (depth : Nat) : Evaluation m Unit :=
  let limit := scope.config.maxDepth.toNat
  if limit < depth then throw (.depthExceeded limit) else pure ()

mutual

/-- The value of a term that stands at the given depth. -/
def Term.resolve (depth : Nat) : Term → Evaluation m Value
  | .property path => do
    scope.guardDepth depth
    ExceptT.lift (source.field path)
  | .literal v => do
    scope.guardDepth depth
    return v
  | .binding name => do
    scope.guardDepth depth
    .ofExcept (scope.lookup name)
  | .call name args => do
    scope.guardDepth depth
    let values ← Term.resolveAll (depth + 1) args
    .ofExcept (scope.functions.call name values)
  | .arithmetic op left right => do
    scope.guardDepth depth
    let x ← Term.resolve (depth + 1) left
    let y ← Term.resolve (depth + 1) right
    .ofExcept (op.apply x y)
  | .cast target term => do
    scope.guardDepth depth
    let type := FieldType.ofName target
    if type.isKnown then
      let v ← Term.resolve (depth + 1) term
      .ofExcept ((v.coerce type).mapError .conversion)
    else throw (.unknownCastType target)
  | .dateTime _ => do
    scope.guardDepth depth
    return .string scope.config.dateTimeMarker
termination_by structural t => t

def Term.resolveAll (depth : Nat) : List Term → Evaluation m (List Value)
  | [] => return []
  | t :: ts => do
    let v ← Term.resolve depth t
    let vs ← Term.resolveAll depth ts
    return v :: vs
termination_by structural ts => ts

end

namespace Condition

variable (depth : Nat)

/-- The values of the candidates, or those that the right term stands for if there are none. -/
def resolveCandidates (c : Condition) : Evaluation m (List Value) := do
  if c.candidates.isEmpty then
    let right ← c.right.resolve source scope depth
    return right.candidates
  else Term.resolveAll source scope depth c.candidates

def evalComparison (c : Condition) : Evaluation m Bool := do
  let left ← c.left.resolve source scope depth
  let right ← c.right.resolve source scope depth
  .ofExcept (Value.compare c.op left right)

def evalIn (c : Condition) : Evaluation m Bool := do
  let left ← c.left.resolve source scope depth
  let candidates ← c.resolveCandidates source scope depth
  return candidates.any fun v => left.equal v

def evalNull (c : Condition) : Evaluation m Bool := do
  let left ← c.left.resolve source scope depth
  return left.isNull

/-- Null matches no pattern. -/
def evalLike (c : Condition) : Evaluation m Bool := do
  let left ← c.left.resolve source scope depth
  if left.isNull then return false
  else
    let pattern ←
      if c.pattern.isEmpty then do
        let right ← c.right.resolve source scope depth
        pure right.text
      else pure c.pattern
    source.like scope.config.likeMode left.text pattern

/-- Both bounds are included. -/
def evalBetween (c : Condition) : Evaluation m Bool :=
  match c.lower, c.upper with
  | some lower, some upper => do
    let left ← c.left.resolve source scope depth
    let low ← lower.resolve source scope depth
    let high ← upper.resolve source scope depth
    let above ← .ofExcept (Value.compare .ge left low)
    if above then .ofExcept (Value.compare .le left high) else return false
  | _, _ => throw (.malformedOperand .between .missingBound)

def evalContains (c : Condition) : Evaluation m Bool := do
  let left ← c.left.resolve source scope depth
  let right ← c.right.resolve source scope depth
  .ofExcept (left.holds right)

/-- Null has no items. -/
def evalAnyOf (c : Condition) : Evaluation m Bool := do
  let left ← c.left.resolve source scope depth
  if left.isNull then return false
  else
    match left.elements? with
    | none => throw (.malformedOperand .anyOf (.notArray left.kind))
    | some items =>
      let candidates ← c.resolveCandidates source scope depth
      return items.any fun v => candidates.any fun w => v.equal w

/-- The answer of the operator to terms at the given depth, before it may be negated. -/
def evalOperator (c : Condition) : Evaluation m Bool :=
  match c.op with
  | .isIn => c.evalIn source scope depth
  | .notIn => (! ·) <$> c.evalIn source scope depth
  | .isNull => c.evalNull source scope depth
  | .isNotNull => (! ·) <$> c.evalNull source scope depth
  | .like => c.evalLike source scope depth
  | .between => c.evalBetween source scope depth
  | .contains => c.evalContains source scope depth
  | .anyOf => c.evalAnyOf source scope depth
  | _ => c.evalComparison source scope depth

def eval (c : Condition) : Evaluation m Bool := do
  scope.guardDepth depth
  let holds ← c.evalOperator source scope (depth + 1)
  return holds != c.negate

/-- Whether one of the conditions holds; those after it are not evaluated. -/
def someHold : List Condition → Evaluation m Bool
  | [] => return false
  | c :: cs => do
    if ← c.eval source scope depth then return true else someHold cs

/-- Whether all of the conditions hold; those after one that does not are not evaluated. -/
def allHold : List Condition → Evaluation m Bool
  | [] => return true
  | c :: cs => do
    if ← c.eval source scope depth then allHold cs else return false

end Condition

mutual

/-- Whether a query at the given depth holds. An OR is settled by the first part that holds, and
an empty one holds too; an AND is settled by the first part that does not hold. -/
def Query.eval (depth : Nat) : Query → Evaluation m Bool
  | .mk isOr conditions subQueries => do
    scope.guardDepth depth
    if isOr then
      if ← Condition.someHold source scope (depth + 1) conditions then return true
      else if ← Query.someHold (depth + 1) subQueries then return true
      else return conditions.isEmpty && subQueries.isEmpty
    else
      if ← Condition.allHold source scope (depth + 1) conditions then
        Query.allHold (depth + 1) subQueries
      else return false
termination_by structural q => q

/-- Whether one of the queries holds; those after it are not evaluated. -/
def Query.someHold (depth : Nat) : List Query → Evaluation m Bool
  | [] => return false
  | q :: qs => do
    if ← Query.eval depth q then return true else Query.someHold depth qs
termination_by structural qs => qs

/-- Whether all of the queries hold; those after one that does not are not evaluated. -/
def Query.allHold (depth : Nat) : List Query → Evaluation m Bool
  | [] => return true
  | q :: qs => do
    if ← Query.eval depth q then Query.allHold depth qs else return false
termination_by structural qs => qs

end

end Evaluation

end FlatRecord
