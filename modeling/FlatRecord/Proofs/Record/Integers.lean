import FlatRecord.Proofs.Record.Expansion
import FlatRecord.Proofs.Value.Integers

namespace FlatRecord

namespace Record

/-- The values that a list operator at the given depth of a query compares with. -/
def candidatesAt (r : Record) (depth : Nat) (c : Condition) : Except EvalError (List Value) :=
  (r.run fun scope => c.resolveCandidates source scope depth).1

theorem Faithful.resolveCandidates_eq_pure {r : Record} (faithful : r.Faithful) {depth : Nat}
    {c : Condition} {vs : List Value} (h : r.candidatesAt (depth + 1) c = .ok vs) :
    c.resolveCandidates r.plainSource r.scope (depth + 1) = pure vs := by
  have agree := keeping_agreement r.bare r.scope c.paths c.names
  have kept := agree.simulation.resolveCandidates_related (List.Subset.refl _)
    (List.Subset.refl _) (agree.guarded depth _) r faithful rfl
  rw [← faithful.plainSource_eq] at kept
  exact kept.1.symm.trans h

/-- A condition has the answer of its operator, unless it is negated. -/
theorem Faithful.conditionAt_of_operator {r : Record} (faithful : r.Faithful) {depth : Nat}
    {c : Condition} {v : Value} {b : Bool} (left : r.termAt (depth + 1) c.left = .ok v)
    (operator : c.evalOperator r.plainSource r.scope (depth + 1) = pure b) :
    r.conditionAt depth c = .ok (b != c.negate) := by
  rw [faithful.conditionAt_eq, Condition.eval_eq_pure (faithful.resolve_eq_pure left) operator]
  rfl

section ListOperators

variable {r : Record} (faithful : r.Faithful) {depth : Nat} {c : Condition} {v : Value}
  (left : r.termAt (depth + 1) c.left = .ok v)
include faithful left

theorem Faithful.conditionAt_isIn (op : c.op = .isIn) {vs : List Value}
    (candidates : r.candidatesAt (depth + 1) c = .ok vs) :
    r.conditionAt depth c = .ok ((vs.any fun w => v.equal w) != c.negate) := by
  apply faithful.conditionAt_of_operator left
  rw [Condition.evalOperator, op]
  exact Condition.evalIn_eq_pure (faithful.resolve_eq_pure left)
    (faithful.resolveCandidates_eq_pure candidates)

theorem Faithful.conditionAt_contains (op : c.op = .contains) {items : List Value}
    (elements : v.elements? = some items) {w : Value}
    (right : r.termAt (depth + 1) c.right = .ok w) :
    r.conditionAt depth c = .ok ((items.any fun x => x.equal w) != c.negate) := by
  apply faithful.conditionAt_of_operator left
  rw [Condition.evalOperator, op]
  exact Condition.evalContains_eq_pure (faithful.resolve_eq_pure left)
    (faithful.resolve_eq_pure right) (Value.holds_of_elements elements w)

theorem Faithful.conditionAt_anyOf (op : c.op = .anyOf) {items vs : List Value}
    (elements : v.elements? = some items) (candidates : r.candidatesAt (depth + 1) c = .ok vs) :
    r.conditionAt depth c =
      .ok ((items.any fun x => vs.any fun w => x.equal w) != c.negate) := by
  apply faithful.conditionAt_of_operator left
  rw [Condition.evalOperator, op]
  exact Condition.evalAnyOf_eq_pure (faithful.resolve_eq_pure left) elements
    (faithful.resolveCandidates_eq_pure candidates)

end ListOperators

/-- Two integers with different nearest floats compare as whole numbers, and two with the same
one count as equal; an integer of at most 53 bits shares its nearest float with no other. The list
operators look for an equal value. -/
theorem integers_compare {r : Record} (reached : Reached r) :
    (∀ (op : Operator) (a b : Int64), op.isComparison = true →
      Value.compare op (.int a) (.int b) = .ok (if Value.sameNearest a b
        then op.relates a.toInt a.toInt else op.relates a.toInt b.toInt)) ∧
    (∀ n : Int64, (Binary64.ofInt n.toInt).IsNearest n.toInt) ∧
    (∀ a b : Int64, a.toInt.natAbs < twoTo 53 ∨ b.toInt.natAbs < twoTo 53 →
      Value.sameNearest a b = decide (a = b)) ∧
    (∀ a b : Int64, (Value.int a).equal (.int b) = Value.sameNearest a b) ∧
    (∀ (depth : Nat) (c : Condition) (v : Value), r.termAt (depth + 1) c.left = .ok v →
      (c.op = .isIn → ∀ vs, r.candidatesAt (depth + 1) c = .ok vs →
        r.conditionAt depth c = .ok ((vs.any fun w => v.equal w) != c.negate)) ∧
      (c.op = .contains → ∀ items w, v.elements? = some items →
        r.termAt (depth + 1) c.right = .ok w →
        r.conditionAt depth c = .ok ((items.any fun x => x.equal w) != c.negate)) ∧
      (c.op = .anyOf → ∀ items vs, v.elements? = some items →
        r.candidatesAt (depth + 1) c = .ok vs →
        r.conditionAt depth c =
          .ok ((items.any fun x => vs.any fun w => x.equal w) != c.negate))) := by
  have faithful := reached.coherent.toFaithful
  refine ⟨?compare, ?nearest, ?small, ?equal, ?lists⟩
  case compare => exact fun op a b comparison => Value.compare_int a b comparison
  case nearest => exact fun n => Binary64.isNearest_ofInt (Binary64.natAbs_toInt_le n)
  case small => exact fun a b small => Value.sameNearest_of_small small
  case equal => exact Value.equal_int
  case lists =>
    intro depth c v left
    refine ⟨?isIn, ?contains, ?anyOf⟩
    case isIn => exact fun op vs candidates => faithful.conditionAt_isIn left op candidates
    case contains =>
      exact fun op items w elements right => faithful.conditionAt_contains left op elements right
    case anyOf =>
      exact fun op items vs elements candidates =>
        faithful.conditionAt_anyOf left op elements candidates

/-- The first integer that shares its nearest float with another. -/
theorem integers_compare_shared :
    ∃ (r : Record) (first next : Int64), Reached r ∧ first = 9007199254740992 ∧
      next = 9007199254740993 ∧ Value.compare .lt (.int first) (.int next) = .ok false ∧
      Value.compare .lt (.int 7) (.int first) = .ok true ∧ Value.sameNearest 7 first = false ∧
      (Value.int first).equal (.int next) = true ∧
      r.conditionAt 0 (.isIn (.property "id") [.literal (.int next)]) = .ok true ∧
      r.conditionAt 0 (.contains (.literal (.array [.int 7, .int first])) (.literal (.int next))) =
        .ok true ∧
      r.conditionAt 0 (.anyOf (.literal (.array [.int 7])) [.literal (.int next)]) = .ok false := by
  let r := ofFlat [("id", .int 9007199254740992)]
  have left : r.termAt 1 (.property "id") = .ok (.int 9007199254740992) := rfl
  obtain ⟨compare, _, small, equal, lists⟩ := integers_compare (r := r) (.ofFlat _)
  have shared : Value.sameNearest 9007199254740992 9007199254740993 = true := by decide +kernel
  have same := (equal _ _).trans shared
  have apart : ∀ b, b ≠ 7 → Value.sameNearest 7 b = false := by
    intro b other
    rw [small 7 b (.inl (by decide)), decide_eq_false other.symm]
  have below : Operator.relates .lt (7 : Int64).toInt (9007199254740992 : Int64).toInt = true := by
    decide +kernel
  refine ⟨r, 9007199254740992, 9007199254740993, .ofFlat _, rfl, rfl, ?_, ?_, apart _ (by decide),
    same, ?_, ?_, ?_⟩
  · rw [compare .lt _ _ rfl, shared]
    simp [Operator.relates]
  · rw [compare .lt _ _ rfl, apart _ (by decide)]
    exact congrArg Except.ok below
  · rw [(lists 0 (.isIn _ [.literal (.int _)]) _ left).1 rfl [.int 9007199254740993] rfl]
    simp [same, Condition.isIn]
  · rw [(lists 0 (.contains (.literal (.array _)) (.literal (.int _))) _ rfl).2.1 rfl _ _ rfl rfl]
    simp [same, Condition.contains, Condition.compare]
  · rw [(lists 0 (.anyOf (.literal (.array _)) [.literal (.int _)]) _ rfl).2.2 rfl _
      [.int 9007199254740993] rfl rfl]
    simp [equal, apart, Condition.anyOf]

end Record

end FlatRecord
