import FlatRecord.Proofs.Like.Covering
import FlatRecord.Proofs.Record.Failure

namespace FlatRecord

/-- Operators that have an answer for operands of every kind. -/
def Operator.isTotal : Operator → Bool
  | .contains | .anyOf => false
  | _ => true

/-- Terms that find their value and compute nothing. A variable must have a value to be found. -/
def Term.isAtHand (bindings : Bindings) : Term → Bool
  | .property _ => true
  | .literal _ => true
  | .binding name => bindings.contains (plainName name)
  | .dateTime _ => true
  | _ => false

/-- The two bounds that `BETWEEN` asks for; no other operator reads them. -/
def Condition.isBounded (c : Condition) : Bool :=
  match c.op with
  | .between => c.lower.isSome && c.upper.isSome
  | _ => true

/-- A condition in which nothing can fail but the depth limit. -/
def Condition.isSafe (bindings : Bindings) (c : Condition) : Bool :=
  c.op.isTotal && c.isBounded && c.terms.all (Term.isAtHand bindings)

mutual

def Query.isSafe (bindings : Bindings) : Query → Bool
  | .mk _ conditions subQueries =>
    conditions.all (Condition.isSafe bindings) && Query.listSafe bindings subQueries
termination_by structural q => q

def Query.listSafe (bindings : Bindings) : List Query → Bool
  | [] => true
  | q :: qs => q.isSafe bindings && Query.listSafe bindings qs
termination_by structural qs => qs

end

namespace Record

/-- An evaluation that has a value, whatever record it starts from. -/
abbrev NeverFails {α : Type} (x : Evaluation (StateM Record) α) : Prop := FailsOnly (fun _ => False) x

theorem NeverFails.exists_value {α : Type} {x : Evaluation (StateM Record) α} (h : NeverFails x)
    (r : Record) : ∃ a, ((x.run).run r).1 = .ok a := by
  cases out : ((x.run).run r).1 with
  | ok a => exact ⟨a, rfl⟩
  | error e => exact (h r e out).elim

theorem neverFails_branch {α : Type} {x : Evaluation (StateM Record) Bool}
    {a b : Evaluation (StateM Record) α} (h : NeverFails x) (holding : NeverFails a)
    (failing : NeverFails b) : NeverFails (x >>= fun holds => if holds then a else b) := by
  apply h.bind
  intro holds
  cases holds with
  | true => exact holding
  | false => exact failing

theorem neverFails_map {α β : Type} {x : Evaluation (StateM Record) α} (f : α → β)
    (h : NeverFails x) : NeverFails (f <$> x) := by
  rw [Evaluation.map_eq_bind]
  exact h.bind fun a => failsOnly_pure (f a)

theorem neverFails_compare {op : Operator} (comparison : op.isComparison = true) (v w : Value) :
    NeverFails (.ofExcept (Value.compare op v w)) := by
  apply failsOnly_ofExcept
  intro e failed
  cases op with
  | eq | ne | gt | lt | ge | le => cases failed
  | _ => cases comparison

variable {scope : Scope} {depth : Nat}

theorem neverFails_guarded {α : Type} {x : Evaluation (StateM Record) α}
    (within : depth ≤ scope.config.maxDepth.toNat) (h : NeverFails x) :
    NeverFails (scope.guardDepth depth >>= fun _ => x) :=
  (failsOnly_guardDepth fun deep => Nat.not_lt.mpr within deep).bind fun _ => h

theorem neverFails_resolve {t : Term} (atHand : t.isAtHand scope.bindings = true)
    (within : depth ≤ scope.config.maxDepth.toNat) : NeverFails (t.resolve source scope depth) := by
  cases t with
  | property path =>
    rw [Term.resolve]
    exact neverFails_guarded within (failsOnly_lift _)
  | literal v =>
    rw [Term.resolve]
    exact neverFails_guarded within (failsOnly_pure v)
  | binding name =>
    rw [Term.resolve]
    apply neverFails_guarded within
    obtain ⟨v, bound⟩ := Option.isSome_iff_exists.mp atHand
    apply failsOnly_ofExcept
    intro e failed
    rw [Scope.lookup, bound] at failed
    cases failed
  | dateTime name =>
    rw [Term.resolve]
    exact neverFails_guarded within (failsOnly_pure _)
  | call name args => cases atHand
  | arithmetic op left right => cases atHand
  | cast target term => cases atHand

theorem neverFails_resolveAll {ts : List Term}
    (atHand : ∀ t ∈ ts, t.isAtHand scope.bindings = true)
    (within : depth ≤ scope.config.maxDepth.toNat) :
    NeverFails (Term.resolveAll source scope depth ts) := by
  induction ts with
  | nil => exact failsOnly_pure []
  | cons t ts ih =>
    obtain ⟨head, tail⟩ := List.forall_mem_cons.mp atHand
    rw [Term.resolveAll]
    apply (neverFails_resolve head within).bind
    intro v
    exact (ih tail).bind fun vs => failsOnly_pure (v :: vs)

theorem neverFails_like (mode : LikeMode) (text pattern : String) :
    NeverFails (source.like mode text pattern) := by
  intro r e h
  have failed : (r.patterns.test mode text pattern).1 = .error e := h
  unfold Like.Cache.test at failed
  rw [Like.compile_plain] at failed
  split at failed
  next => cases failed
  next => split at failed <;> cases failed

section Conditions

variable {c : Condition} (atHand : ∀ t ∈ c.terms, t.isAtHand scope.bindings = true)
  (within : depth ≤ scope.config.maxDepth.toNat)
include atHand within

theorem neverFails_operand {t : Term} (mem : t ∈ c.terms) :
    NeverFails (t.resolve source scope depth) :=
  neverFails_resolve (atHand t mem) within

theorem neverFails_left : NeverFails (c.left.resolve source scope depth) :=
  neverFails_operand atHand within (by simp [Condition.terms])

theorem neverFails_right : NeverFails (c.right.resolve source scope depth) :=
  neverFails_operand atHand within (by simp [Condition.terms])

theorem neverFails_candidates : NeverFails (c.resolveCandidates source scope depth) := by
  unfold Condition.resolveCandidates
  by_cases none : c.candidates.isEmpty
  · simp only [none, ↓reduceIte]
    exact (neverFails_right atHand within).bind fun v => failsOnly_pure v.candidates
  · simp only [none]
    have listed : ∀ t ∈ c.candidates, t ∈ c.terms := by
      intro t mem
      simp [Condition.terms, mem]
    exact neverFails_resolveAll (fun t mem => atHand t (listed t mem)) within

theorem neverFails_evalComparison (comparison : c.op.isComparison = true) :
    NeverFails (c.evalComparison source scope depth) := by
  unfold Condition.evalComparison
  apply (neverFails_left atHand within).bind
  intro v
  apply (neverFails_right atHand within).bind
  intro w
  exact neverFails_compare comparison v w

theorem neverFails_evalIn : NeverFails (c.evalIn source scope depth) := by
  unfold Condition.evalIn
  apply (neverFails_left atHand within).bind
  intro v
  exact (neverFails_candidates atHand within).bind fun vs => failsOnly_pure _

theorem neverFails_evalNull : NeverFails (c.evalNull source scope depth) :=
  (neverFails_left atHand within).bind fun v => failsOnly_pure v.isNull

theorem neverFails_evalLike : NeverFails (c.evalLike source scope depth) := by
  unfold Condition.evalLike
  apply (neverFails_left atHand within).bind
  intro v
  cases v.isNull with
  | true => exact failsOnly_pure false
  | false =>
    cases c.pattern.isEmpty with
    | true =>
      apply (neverFails_right atHand within).bind
      intro w
      exact (failsOnly_pure w.text).bind fun pattern => neverFails_like _ _ pattern
    | false => exact (failsOnly_pure c.pattern).bind fun pattern => neverFails_like _ _ pattern

theorem neverFails_evalBetween {low high : Term} (lower : c.lower = some low)
    (upper : c.upper = some high) : NeverFails (c.evalBetween source scope depth) := by
  unfold Condition.evalBetween
  simp only [lower, upper]
  apply (neverFails_left atHand within).bind
  intro v
  apply (neverFails_operand atHand within (by simp [Condition.terms, lower])).bind
  intro x
  apply (neverFails_operand atHand within (by simp [Condition.terms, upper])).bind
  intro y
  exact neverFails_branch (neverFails_compare rfl v x) (neverFails_compare rfl v y)
    (failsOnly_pure false)

theorem neverFails_evalOperator (total : c.op.isTotal = true) (bounded : c.isBounded = true) :
    NeverFails (c.evalOperator source scope depth) := by
  unfold Condition.evalOperator
  cases op : c.op with
  | eq | ne | gt | lt | ge | le =>
    exact neverFails_evalComparison atHand within (by rw [op]; rfl)
  | isIn => exact neverFails_evalIn atHand within
  | notIn => exact neverFails_map _ (neverFails_evalIn atHand within)
  | isNull => exact neverFails_evalNull atHand within
  | isNotNull => exact neverFails_map _ (neverFails_evalNull atHand within)
  | like => exact neverFails_evalLike atHand within
  | between =>
    rw [Condition.isBounded, op, Bool.and_eq_true] at bounded
    obtain ⟨low, lower⟩ := Option.isSome_iff_exists.mp bounded.1
    obtain ⟨high, upper⟩ := Option.isSome_iff_exists.mp bounded.2
    exact neverFails_evalBetween atHand within lower upper
  | contains | anyOf =>
    rw [op] at total
    cases total

end Conditions

/-- The terms of a condition lie one level below it. -/
theorem neverFails_condition {c : Condition} (safe : c.isSafe scope.bindings = true)
    (within : depth + c.height ≤ scope.config.maxDepth.toNat) :
    NeverFails (c.eval source scope depth) := by
  rw [Condition.isSafe, Bool.and_eq_true, Bool.and_eq_true, List.all_eq_true] at safe
  obtain ⟨⟨total, bounded⟩, atHand⟩ := safe
  have left : c.left.height < c.height := Term.height_lt_listHeight (by simp [Condition.terms])
  unfold Condition.eval
  apply neverFails_guarded (Nat.le_of_add_right_le within)
  have below : depth + 1 ≤ scope.config.maxDepth.toNat := by omega
  have operator := neverFails_evalOperator atHand below total bounded
  exact operator.bind fun holds => failsOnly_pure _

section Lists

variable {cs : List Condition} (safe : ∀ c ∈ cs, c.isSafe scope.bindings = true)
  (within : depth + Condition.listHeight cs ≤ scope.config.maxDepth.toNat)
include safe within

theorem neverFails_someHold : NeverFails (Condition.someHold source scope (depth + 1) cs) := by
  induction cs with
  | nil => exact failsOnly_pure false
  | cons c cs ih =>
    obtain ⟨head, tail⟩ := List.forall_mem_cons.mp safe
    rw [Condition.listHeight] at within
    rw [Condition.someHold]
    exact neverFails_branch (neverFails_condition head (by omega)) (failsOnly_pure true)
      (ih tail (by omega))

theorem neverFails_allHold : NeverFails (Condition.allHold source scope (depth + 1) cs) := by
  induction cs with
  | nil => exact failsOnly_pure true
  | cons c cs ih =>
    obtain ⟨head, tail⟩ := List.forall_mem_cons.mp safe
    rw [Condition.listHeight] at within
    rw [Condition.allHold]
    exact neverFails_branch (neverFails_condition head (by omega)) (ih tail (by omega))
      (failsOnly_pure false)

end Lists

mutual

theorem neverFails_query {depth : Nat} :
    ∀ q : Query, q.isSafe scope.bindings = true →
      depth + q.height ≤ scope.config.maxDepth.toNat → NeverFails (q.eval source scope depth)
  | .mk isOr conditions subQueries, safe, within => by
    rw [Query.isSafe, Bool.and_eq_true, List.all_eq_true] at safe
    rw [Query.height] at within
    have condWithin : depth + Condition.listHeight conditions ≤ scope.config.maxDepth.toNat := by
      omega
    have subWithin : depth + Query.listHeight subQueries ≤ scope.config.maxDepth.toNat := by omega
    rw [Query.eval]
    apply neverFails_guarded (by omega)
    cases isOr with
    | true =>
      apply neverFails_branch (neverFails_someHold safe.1 condWithin) (failsOnly_pure true)
      exact neverFails_branch (neverFails_someQueryHolds subQueries safe.2 subWithin)
        (failsOnly_pure true) (failsOnly_pure _)
    | false =>
      exact neverFails_branch (neverFails_allHold safe.1 condWithin)
        (neverFails_allQueriesHold subQueries safe.2 subWithin) (failsOnly_pure false)
termination_by structural q => q

theorem neverFails_someQueryHolds {depth : Nat} :
    ∀ qs : List Query, Query.listSafe scope.bindings qs = true →
      depth + Query.listHeight qs ≤ scope.config.maxDepth.toNat →
        NeverFails (Query.someHold source scope (depth + 1) qs)
  | [], _, _ => failsOnly_pure false
  | q :: qs, safe, within => by
    rw [Query.listSafe, Bool.and_eq_true] at safe
    rw [Query.listHeight] at within
    rw [Query.someHold]
    exact neverFails_branch (neverFails_query q safe.1 (by omega)) (failsOnly_pure true)
      (neverFails_someQueryHolds qs safe.2 (by omega))
termination_by structural qs => qs

theorem neverFails_allQueriesHold {depth : Nat} :
    ∀ qs : List Query, Query.listSafe scope.bindings qs = true →
      depth + Query.listHeight qs ≤ scope.config.maxDepth.toNat →
        NeverFails (Query.allHold source scope (depth + 1) qs)
  | [], _, _ => failsOnly_pure true
  | q :: qs, safe, within => by
    rw [Query.listSafe, Bool.and_eq_true] at safe
    rw [Query.listHeight] at within
    rw [Query.allHold]
    exact neverFails_branch (neverFails_query q safe.1 (by omega))
      (neverFails_allQueriesHold qs safe.2 (by omega)) (failsOnly_pure false)
termination_by structural qs => qs

end

/-- A query that only finds values and applies operators to them that have an answer for all is
answered on every row, unless a node of it lies deeper than the limit. -/
theorem exists_answer_of_safe {scope : Scope} {q : Query} (safe : q.isSafe scope.bindings = true)
    (within : q.height ≤ scope.config.maxDepth.toNat) :
    ∀ row : Record, row.scope = scope → ∃ b, row.satisfies q = .ok b := by
  rintro row rfl
  rw [← Nat.zero_add q.height] at within
  exact (neverFails_query q safe within).exists_value row

/-- The limit lets in the terms of the inner query, and no node more. -/
theorem exists_answer_of_safe_inner :
    ∃ (scope : Scope) (q : Query),
      q = (Query.any [(Condition.like (.property "tags") "%x_").negated,
          .between (.property "tags") (.binding "$low") (.dateTime "now")]).withSubQuery
        (.all [.notIn (.literal (.object [])) [.property "gone", .binding "low"],
          .compare (.property "tags") .ge (.literal (.float .nan))]) ∧
      q.isSafe scope.bindings = true ∧ q.height = 3 ∧ scope.config.maxDepth = 3 ∧
      ∀ row : Record, row.scope = scope → ∃ b, row.satisfies q = .ok b := by
  let config : Config := { (default : Config) with maxDepth := 3 }
  let scope : Scope := { config := config, bindings := KeyMap.empty.insert "low" .null }
  let q := (Query.any [(Condition.like (.property "tags") "%x_").negated,
      .between (.property "tags") (.binding "$low") (.dateTime "now")]).withSubQuery
    (.all [.notIn (.literal (.object [])) [.property "gone", .binding "low"],
      .compare (.property "tags") .ge (.literal (.float .nan))])
  have safe : q.isSafe scope.bindings = true := by decide
  have deepest : q.height = 3 := by decide
  have within : q.height ≤ scope.config.maxDepth.toNat := by decide
  exact ⟨scope, q, rfl, safe, deepest, rfl, exists_answer_of_safe safe within⟩

end Record

end FlatRecord
