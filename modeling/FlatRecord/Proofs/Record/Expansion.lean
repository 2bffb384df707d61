import FlatRecord.Proofs.Evaluation.Parts
import FlatRecord.Proofs.Record.Coherent
import FlatRecord.Proofs.Record.Resolved

namespace FlatRecord

namespace Value

theorem holds_of_elements {container : Value} {items : List Value}
    (h : container.elements? = some items) (item : Value) :
    container.holds item = .ok (items.any fun v => v.equal item) := by
  cases container with
  | string s =>
    unfold holds
    simp only [h]
  | array _ =>
    cases h
    rfl
  | _ => cases h

theorem equal_null (v : Value) : v.equal .null = v.isNull := by
  cases v <;> rfl

end Value

theorem any_any_comm {α β : Type} (p : α → β → Bool) (xs : List α) (ys : List β) :
    (xs.any fun x => ys.any (p x)) = ys.any fun y => xs.any fun x => p x y := by
  rw [Bool.eq_iff_iff]
  simp only [List.any_eq_true]
  constructor
  · rintro ⟨x, hx, y, hy, h⟩
    exact ⟨y, hy, x, hx, h⟩
  · rintro ⟨y, hy, x, hx, h⟩
    exact ⟨x, hx, y, hy, h⟩

variable {source : Source Id} {scope : Scope} {depth : Nat}

namespace Condition

section Left

variable {t : Term} {v : Value} (left : t.resolve source scope (depth + 1) = pure v)
include left

theorem eval_compare {op : Operator} (comparison : op.isComparison = true) {s : Term} {w : Value}
    (right : s.resolve source scope (depth + 1) = pure w) {b : Bool}
    (h : Value.compare op v w = .ok b) : (compare t op s).eval source scope depth = pure b := by
  have operator := evalComparison_eq_pure (c := compare t op s) left right h
  rw [← evalOperator_of_isComparison comparison] at operator
  exact eval_plain left operator rfl

theorem eval_contains {s : Term} {w : Value}
    (right : s.resolve source scope (depth + 1) = pure w) {b : Bool} (h : v.holds w = .ok b) :
    (contains t s).eval source scope depth = pure b :=
  eval_plain left (evalContains_eq_pure left right h) rfl

theorem eval_isNull : (isNull t).eval source scope depth = pure v.isNull :=
  eval_plain left (evalNull_eq_pure left) rfl

theorem eval_isNotNull : (isNotNull t).eval source scope depth = pure (!v.isNull) := by
  refine eval_plain left ?_ rfl
  change (! ·) <$> (isNotNull t).evalNull source scope (depth + 1) = pure (!v.isNull)
  rw [evalNull_eq_pure left, map_pure]

theorem eval_between {low high : Term} {x y : Value}
    (lower : low.resolve source scope (depth + 1) = pure x)
    (upper : high.resolve source scope (depth + 1) = pure y) {above below : Bool}
    (ge : Value.compare .ge v x = .ok above) (le : Value.compare .le v y = .ok below) :
    (between t low high).eval source scope depth = pure (above && below) := by
  have answer := evalBetween_eq_pure (c := between t low high) left rfl rfl lower upper ge le
  exact eval_plain left answer rfl

theorem eval_anyOf_null {vs : List Term} (null : v = .null) :
    (anyOf t vs).eval source scope depth = pure false :=
  eval_plain left (evalAnyOf_null left null) rfl

section Candidates

variable {vs : List Term} {value : Term → Value}
  (candidates : ∀ s ∈ vs, s.resolve source scope (depth + 1) = pure (value s))
include candidates

theorem eval_isIn (filled : vs ≠ []) :
    (isIn t vs).eval source scope depth = pure (vs.any fun s => v.equal (value s)) := by
  have answer := evalIn_eq_pure (c := isIn t vs) left (resolveCandidates_eq_pure candidates filled)
  rw [List.any_map] at answer
  exact eval_plain left answer rfl

theorem eval_notIn :
    (notIn t vs).eval source scope depth = pure (vs.all fun s => !v.equal (value s)) := by
  have resolved : (notIn t vs).resolveCandidates source scope (depth + 1) = pure (vs.map value) := by
    cases vs with
    | nil =>
      -- The right term is null, which stands for no candidates.
      change (Term.literal .null).resolve source scope (depth + 1) >>= _ = _
      rw [Term.resolve_null source (Term.within_of_resolve left), pure_bind]
      rfl
    | cons s vs => exact resolveCandidates_eq_pure candidates (List.cons_ne_nil s vs)
  refine eval_plain left ?_ rfl
  change (! ·) <$> (notIn t vs).evalIn source scope (depth + 1) = _
  rw [evalIn_eq_pure left resolved, map_pure, List.any_map, List.not_any_eq_all_not]
  rfl

theorem eval_anyOf (filled : vs ≠ []) {items : List Value} (elements : v.elements? = some items) :
    (anyOf t vs).eval source scope depth =
      pure (vs.any fun s => items.any fun x => x.equal (value s)) := by
  have answer := evalAnyOf_eq_pure (c := anyOf t vs) left elements
    (resolveCandidates_eq_pure candidates filled)
  simp only [List.any_map] at answer
  rw [any_any_comm] at answer
  exact eval_plain left answer rfl

end Candidates

end Left

end Condition

namespace Query

section Left

variable {t : Term} {v : Value} (left : t.resolve source scope (depth + 2) = pure v)
include left

theorem eval_isNull_expanded :
    (single (.isNull t)).eval source scope depth =
      (single (.compare t .eq (.literal .null))).eval source scope depth := by
  -- Null stands where the term does, which has a value there, so it is within the limit.
  have null := Term.resolve_null source (Term.within_of_resolve left)
  rw [eval_single, eval_single, Condition.eval_isNull left,
    Condition.eval_compare left rfl null rfl, Value.equal_null]

theorem eval_isNotNull_expanded :
    (single (.isNotNull t)).eval source scope depth =
      (single (.compare t .ne (.literal .null))).eval source scope depth := by
  have null := Term.resolve_null source (Term.within_of_resolve left)
  rw [eval_single, eval_single, Condition.eval_isNotNull left,
    Condition.eval_compare left rfl null rfl, Value.equal_null]

theorem eval_between_expanded {low high : Term} {x y : Value}
    (lower : low.resolve source scope (depth + 2) = pure x)
    (upper : high.resolve source scope (depth + 2) = pure y) :
    (single (.between t low high)).eval source scope depth =
      (all [.compare t .ge low, .compare t .le high]).eval source scope depth := by
  obtain ⟨above, ge⟩ : ∃ b, Value.compare .ge v x = .ok b := ⟨_, rfl⟩
  obtain ⟨below, le⟩ : ∃ b, Value.compare .le v y = .ok b := ⟨_, rfl⟩
  rw [eval_single, eval_all, Condition.eval_between left lower upper ge le]
  apply bind_congr
  intro _
  rw [List.map_cons, List.map_cons, List.map_nil, Condition.eval_compare left rfl lower ge,
    Condition.eval_compare left rfl upper le, Evaluation.settle, pure_bind]
  cases above with
  | false => rfl
  | true => exact (Evaluation.settle_single false _).symm

section Candidates

variable {vs : List Term} {value : Term → Value}
  (candidates : ∀ s ∈ vs, s.resolve source scope (depth + 2) = pure (value s))
include candidates

theorem eval_isIn_expanded (filled : vs ≠ []) :
    (single (.isIn t vs)).eval source scope depth =
      (any (vs.map (.compare t .eq))).eval source scope depth := by
  have equal : ∀ s ∈ vs, (Condition.compare t .eq s).eval source scope (depth + 1) =
      pure (v.equal (value s)) :=
    fun s mem => Condition.eval_compare left rfl (candidates s mem) rfl
  rw [eval_single, eval_any _ _ _ (mt List.map_eq_nil_iff.mp filled), List.map_map,
    Condition.eval_isIn left candidates filled]
  apply bind_congr
  intro _
  exact (Evaluation.settle_any equal).symm

theorem eval_notIn_expanded :
    (single (.notIn t vs)).eval source scope depth =
      (all (vs.map (.compare t .ne))).eval source scope depth := by
  have differ : ∀ s ∈ vs, (Condition.compare t .ne s).eval source scope (depth + 1) =
      pure (!v.equal (value s)) :=
    fun s mem => Condition.eval_compare left rfl (candidates s mem) rfl
  rw [eval_single, eval_all, List.map_map, Condition.eval_notIn left candidates]
  apply bind_congr
  intro _
  exact (Evaluation.settle_all differ).symm

theorem eval_anyOf_expanded (filled : vs ≠ [])
    (items : v = .null ∨ ∃ items, v.elements? = some items) :
    (single (.anyOf t vs)).eval source scope depth =
      (any (vs.map (.contains t))).eval source scope depth := by
  rw [eval_single, eval_any _ _ _ (mt List.map_eq_nil_iff.mp filled), List.map_map]
  apply bind_congr
  intro _
  rcases items with rfl | ⟨items, elements⟩
  · have absent : ∀ s ∈ vs, (Condition.contains t s).eval source scope (depth + 1) = pure false :=
      fun s mem => Condition.eval_contains left (candidates s mem) rfl
    rw [Condition.eval_anyOf_null left rfl]
    have answer := Evaluation.settle_any absent
    rw [List.any_eq_false.mpr fun _ _ => Bool.false_ne_true] at answer
    exact answer.symm
  · have held : ∀ s ∈ vs, (Condition.contains t s).eval source scope (depth + 1) =
        pure (items.any fun x => x.equal (value s)) := fun s mem =>
      Condition.eval_contains left (candidates s mem) (Value.holds_of_elements elements _)
    rw [Condition.eval_anyOf left candidates filled elements]
    exact (Evaluation.settle_any held).symm

end Candidates

end Left

end Query

namespace Record

/-- The term has a value as an operand of a condition that stands in the query itself, where it
lies two levels deep. -/
def Resolves (r : Record) (t : Term) : Prop := ∃ v, r.termAt 2 t = .ok v

/-- The term has a value there, and this is null, an array or the text of one. -/
def ReadsItems (r : Record) (t : Term) : Prop :=
  ∃ v, r.termAt 2 t = .ok v ∧ (v = .null ∨ ∃ items, v.elements? = some items)

theorem Faithful.exists_values {r : Record} (faithful : r.Faithful) {ts : List Term}
    (h : ∀ t ∈ ts, r.Resolves t) :
    ∃ value : Term → Value, ∀ t ∈ ts, t.resolve r.plainSource r.scope 2 = pure (value t) := by
  have each : ∀ t, ∃ v, t ∈ ts → t.resolve r.plainSource r.scope 2 = pure v := by
    intro t
    by_cases mem : t ∈ ts
    · obtain ⟨v, resolved⟩ := h t mem
      exact ⟨v, fun _ => faithful.resolve_eq_pure resolved⟩
    · exact ⟨.null, fun there => absurd there mem⟩
  exact Classical.axiomOfChoice each

/-- A single condition of a derived operator has the answer of the comparisons it stands for, if
its terms have values. -/
theorem satisfies_expanded {r : Record} (reached : Reached r) {t : Term} (left : r.Resolves t) :
    (∀ vs, vs ≠ [] → (∀ v ∈ vs, r.Resolves v) →
      r.satisfies (.single (.isIn t vs)) = r.satisfies (.any (vs.map (.compare t .eq)))) ∧
    (∀ vs, (∀ v ∈ vs, r.Resolves v) →
      r.satisfies (.single (.notIn t vs)) = r.satisfies (.all (vs.map (.compare t .ne)))) ∧
    (∀ low high, r.Resolves low → r.Resolves high →
      r.satisfies (.single (.between t low high)) =
        r.satisfies (.all [.compare t .ge low, .compare t .le high])) ∧
    r.satisfies (.single (.isNull t)) =
      r.satisfies (.single (.compare t .eq (.literal .null))) ∧
    r.satisfies (.single (.isNotNull t)) =
      r.satisfies (.single (.compare t .ne (.literal .null))) ∧
    (r.ReadsItems t → ∀ vs, vs ≠ [] → (∀ v ∈ vs, r.Resolves v) →
      r.satisfies (.single (.anyOf t vs)) = r.satisfies (.any (vs.map (.contains t)))) := by
  have faithful := reached.coherent.toFaithful
  obtain ⟨v, resolved⟩ := left
  have onLeft := faithful.resolve_eq_pure resolved
  simp only [faithful.satisfies_eq]
  refine ⟨?isIn, ?notIn, ?between, ?isNull, ?isNotNull, ?anyOf⟩
  case isIn =>
    intro vs filled candidates
    obtain ⟨value, values⟩ := faithful.exists_values candidates
    exact congrArg ExceptT.run (Query.eval_isIn_expanded onLeft values filled)
  case notIn =>
    intro vs candidates
    obtain ⟨value, values⟩ := faithful.exists_values candidates
    exact congrArg ExceptT.run (Query.eval_notIn_expanded onLeft values)
  case between =>
    intro low high ⟨x, lower⟩ ⟨y, upper⟩
    exact congrArg ExceptT.run (Query.eval_between_expanded onLeft
      (faithful.resolve_eq_pure lower) (faithful.resolve_eq_pure upper))
  case isNull => exact congrArg ExceptT.run (Query.eval_isNull_expanded onLeft)
  case isNotNull => exact congrArg ExceptT.run (Query.eval_isNotNull_expanded onLeft)
  case anyOf =>
    intro ⟨w, again, items⟩ vs filled candidates
    obtain ⟨value, values⟩ := faithful.exists_values candidates
    exact congrArg ExceptT.run
      (Query.eval_anyOf_expanded (faithful.resolve_eq_pure again) values filled items)

/-- A stored array text on the left, null and the text itself among the candidates. -/
theorem satisfies_expanded_mixed :
    ∃ (r : Record) (t gone text item : Term), Reached r ∧ r.ReadsItems t ∧
      r.satisfies (.single (.isIn t [gone, text])) = .ok true ∧
      r.satisfies (.any [.compare t .eq gone, .compare t .eq text]) = .ok true ∧
      r.satisfies (.single (.notIn t [gone, text])) = .ok false ∧
      r.satisfies (.all [.compare t .ne gone, .compare t .ne text]) = .ok false ∧
      r.satisfies (.single (.between t item text)) =
        r.satisfies (.all [.compare t .ge item, .compare t .le text]) ∧
      r.satisfies (.single (.isNull gone)) = .ok true ∧
      r.satisfies (.single (.compare gone .eq (.literal .null))) = .ok true ∧
      r.satisfies (.single (.isNotNull t)) = .ok true ∧
      r.satisfies (.single (.compare t .ne (.literal .null))) = .ok true ∧
      r.satisfies (.single (.anyOf t [gone, item])) = .ok true ∧
      r.satisfies (.any [.contains t gone, .contains t item]) = .ok true := by
  let r := ofFlat [("tags", .string "[\"x\"]")]
  let t : Term := .property "tags"
  let gone : Term := .property "gone"
  let text : Term := .literal (.string "[\"x\"]")
  let item : Term := .literal (.string "x")
  have reached : Reached r := .ofFlat _
  have left : r.Resolves t := ⟨.string "[\"x\"]", rfl⟩
  have absent : r.Resolves gone := ⟨.null, rfl⟩
  have whole : r.Resolves text := ⟨.string "[\"x\"]", rfl⟩
  have part : r.Resolves item := ⟨.string "x", rfl⟩
  have items : r.ReadsItems t := ⟨.string "[\"x\"]", rfl, .inr ⟨[.string "x"], rfl⟩⟩
  have both : ∀ v ∈ [gone, text], r.Resolves v := by
    simp [absent, whole]
  have either : ∀ v ∈ [gone, item], r.Resolves v := by
    simp [absent, part]
  obtain ⟨isIn, notIn, between, -, isNotNull, anyOf⟩ := satisfies_expanded reached left
  obtain ⟨-, -, -, isNull, -, -⟩ := satisfies_expanded reached absent
  have found : r.satisfies (.single (.isIn t [gone, text])) = .ok true := rfl
  have excluded : r.satisfies (.single (.notIn t [gone, text])) = .ok false := rfl
  have missing : r.satisfies (.single (.isNull gone)) = .ok true := rfl
  have present : r.satisfies (.single (.isNotNull t)) = .ok true := rfl
  have held : r.satisfies (.single (.anyOf t [gone, item])) = .ok true := rfl
  exact ⟨r, t, gone, text, item, reached, items,
    found, (isIn [gone, text] (List.cons_ne_nil _ _) both).symm.trans found,
    excluded, (notIn [gone, text] both).symm.trans excluded,
    between item text part whole,
    missing, isNull.symm.trans missing, present, isNotNull.symm.trans present,
    held, (anyOf items [gone, item] (List.cons_ne_nil _ _) either).symm.trans held⟩

end Record

end FlatRecord
