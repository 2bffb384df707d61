import FlatRecord.Proofs.Query.Height
import FlatRecord.Query.Eval

namespace FlatRecord

/-- The errors that operators and conversions raise for what they are given. Others come from what
a query finds outside of it. -/
def EvalError.isOfOperator : EvalError → Bool
  | .unsupportedOperator _ => true
  | .divisionByZero => true
  | .moduloByZero => true
  | .nonNumericOperand _ _ => true
  | .unknownCastType _ => true
  | .malformedOperand _ _ => true
  | .conversion _ => true
  | _ => false

namespace ArithmeticOp

theorem operand_error {op : ArithmeticOp} {v : Value} {e : EvalError}
    (h : op.operand v = .error e) : e.isOfOperator = true := by
  unfold operand at h
  cases reading : v.toFloat with
  | ok x =>
    rw [reading] at h
    cases h
  | error _ =>
    rw [reading] at h
    cases h
    rfl

theorem onNumbers_error {op : ArithmeticOp} {a b : Binary64} {e : EvalError}
    (h : op.onNumbers a b = .error e) : e.isOfOperator = true := by
  unfold onNumbers at h
  cases op with
  | add | sub | mul => cases h
  | div | mod =>
    simp only at h
    split at h
    next =>
      cases h
      rfl
    next => cases h

theorem apply_error {op : ArithmeticOp} {x y : Value} {e : EvalError}
    (h : op.apply x y = .error e) : e.isOfOperator = true := by
  unfold apply at h
  cases left : op.operand x with
  | error _ =>
    rw [left] at h
    cases h
    exact operand_error left
  | ok a =>
    cases right : op.operand y with
    | error _ =>
      rw [left, right] at h
      cases h
      exact operand_error right
    | ok b =>
      cases result : op.onNumbers a b with
      | ok _ =>
        simp only [Except.bind, bind, left, right, result] at h
        cases h
      | error _ =>
        simp only [Except.bind, bind, left, right, result] at h
        cases h
        exact onNumbers_error result

end ArithmeticOp

namespace Value

theorem coerce_error {v : Value} {type : FieldType} {e : EvalError}
    (h : (v.coerce type).mapError EvalError.conversion = .error e) : e.isOfOperator = true := by
  cases result : v.coerce type with
  | ok _ =>
    rw [result] at h
    cases h
  | error _ =>
    rw [result] at h
    cases h
    rfl

theorem compare_error {op : Operator} {a b : Value} {e : EvalError}
    (h : compare op a b = .error e) : e.isOfOperator = true := by
  unfold compare at h
  split at h
  all_goals
    cases h
  rfl

theorem holds_error {container item : Value} {e : EvalError}
    (h : container.holds item = .error e) : e.isOfOperator = true := by
  unfold holds at h
  split at h
  next => cases h
  next => cases h
  next => split at h <;> cases h
  next => cases h
  next =>
    cases h
    rfl

end Value

variable {m n : Type → Type} [Monad m] [Monad n]

theorem Evaluation.map_eq_bind {α β : Type} (f : α → β) (x : Evaluation m α) :
    f <$> x = x >>= fun a => pure (f a) := by
  apply congrArg (fun k => (Bind.bind (m := m) x k : m (Except EvalError β)))
  funext r
  cases r <;> rfl

namespace Term

theorem listPaths_eq_flatMap (ts : List Term) : listPaths ts = ts.flatMap paths := by
  induction ts with
  | nil => rfl
  | cons t ts ih => rw [listPaths, List.flatMap_cons, ih]

theorem listNames_eq_flatMap (ts : List Term) : listNames ts = ts.flatMap names := by
  induction ts with
  | nil => rfl
  | cons t ts ih => rw [listNames, List.flatMap_cons, ih]

end Term

theorem flatMap_subset_flatMap {α β : Type} {f : α → List β} {xs ys : List α}
    (h : xs ⊆ ys) : xs.flatMap f ⊆ ys.flatMap f := by
  intro b mem
  obtain ⟨a, ha, hb⟩ := List.mem_flatMap.mp mem
  exact List.mem_flatMap.mpr ⟨a, h ha, hb⟩

/-- A relation of evaluations over two sources and scopes that holds of what a query finds in them,
if it names only the given paths and variables, and is kept when evaluations are carried out one
after the other. -/
structure Simulation (source : Source m) (other : Source n) (scope scope' : Scope)
    (paths names : List String) where
  Related : {α : Type} → Evaluation m α → Evaluation n α → Prop
  pure : ∀ {α : Type} (a : α), Related (pure a) (pure a)
  throw : ∀ {α : Type} (e : EvalError), e.isOfOperator = true →
    Related (throw e : Evaluation m α) (throw e)
  bind : ∀ {α β : Type} {x : Evaluation m α} {y : Evaluation n α}
    {f : α → Evaluation m β} {g : α → Evaluation n β},
    Related x y → (∀ a, Related (f a) (g a)) → Related (x >>= f) (y >>= g)
  field : ∀ path ∈ paths,
    Related (ExceptT.lift (source.field path)) (ExceptT.lift (other.field path))
  like : ∀ text pattern,
    Related (source.like scope.config.likeMode text pattern)
      (other.like scope'.config.likeMode text pattern)
  lookup : ∀ name, plainName name ∈ names →
    Related (.ofExcept (scope.lookup name)) (.ofExcept (scope'.lookup name))
  call : ∀ name args, Related (.ofExcept (scope.functions.call name args))
    (.ofExcept (scope'.functions.call name args))
  marker : scope.config.dateTimeMarker = scope'.config.dateTimeMarker

namespace Simulation

variable {source : Source m} {other : Source n} {scope scope' : Scope} {paths names : List String}

/-- The depth limit is met alike at two depths, and as many levels below them as are given. -/
def Guarded (sim : Simulation source other scope scope' paths names)
    (depth depth' levels : Nat) : Prop :=
  ∀ level ≤ levels,
    sim.Related (scope.guardDepth (depth + level)) (scope'.guardDepth (depth' + level))

section Parts

variable (sim : Simulation source other scope scope' paths names)

theorem ofExcept_related {α : Type} {x : Except EvalError α}
    (h : ∀ e, x = .error e → e.isOfOperator = true) :
    sim.Related (.ofExcept x) (.ofExcept x) := by
  cases x with
  | ok a => exact sim.pure a
  | error e => exact sim.throw e (h e rfl)

theorem map_related {α β : Type} {x : Evaluation m α} {y : Evaluation n α} (f : α → β)
    (h : sim.Related x y) : sim.Related (f <$> x) (f <$> y) := by
  rw [Evaluation.map_eq_bind, Evaluation.map_eq_bind]
  exact sim.bind h fun a => sim.pure (f a)

theorem branch_related {α : Type} {x : Evaluation m Bool} {y : Evaluation n Bool}
    {a b : Evaluation m α} {a' b' : Evaluation n α} (h : sim.Related x y)
    (holding : sim.Related a a') (failing : sim.Related b b') :
    sim.Related (x >>= fun holds => if holds then a else b)
      (y >>= fun holds => if holds then a' else b') := by
  apply sim.bind h
  intro holds
  cases holds with
  | true => exact holding
  | false => exact failing

end Parts

namespace Guarded

variable {sim : Simulation source other scope scope' paths names} {depth depth' levels : Nat}
  (guarded : sim.Guarded depth depth' levels)
include guarded

theorem related {α : Type} {x : Evaluation m α} {y : Evaluation n α} (h : sim.Related x y) :
    sim.Related (scope.guardDepth depth >>= fun _ => x)
      (scope'.guardDepth depth' >>= fun _ => y) :=
  sim.bind (guarded 0 (Nat.zero_le _)) fun _ => h

theorem mono {fewer : Nat} (h : fewer ≤ levels) : sim.Guarded depth depth' fewer :=
  fun level le => guarded level (Nat.le_trans le h)

theorem below {fewer : Nat} (h : fewer < levels) : sim.Guarded (depth + 1) (depth' + 1) fewer := by
  intro level le
  have reached := guarded (1 + level) (by omega)
  rwa [← Nat.add_assoc, ← Nat.add_assoc] at reached

end Guarded

mutual

theorem resolve_related (sim : Simulation source other scope scope' paths names)
    {depth depth' : Nat} :
    ∀ t : Term, t.paths ⊆ paths → t.names ⊆ names → sim.Guarded depth depth' t.height →
      sim.Related (t.resolve source scope depth) (t.resolve other scope' depth')
  | .property path, hp, _, guarded => by
    rw [Term.resolve, Term.resolve]
    have mem : path ∈ paths := hp (by simp [Term.paths])
    exact guarded.related (sim.field path mem)
  | .literal v, _, _, guarded => by
    rw [Term.resolve, Term.resolve]
    exact guarded.related (sim.pure v)
  | .binding name, _, hn, guarded => by
    rw [Term.resolve, Term.resolve]
    have mem : plainName name ∈ names := hn (by simp [Term.names])
    exact guarded.related (sim.lookup name mem)
  | .call name args, hp, hn, guarded => by
    rw [Term.resolve, Term.resolve]
    rw [Term.paths] at hp
    rw [Term.names] at hn
    apply guarded.related
    rw [Term.height] at guarded
    exact sim.bind (resolveAll_related sim args hp hn guarded) fun vs => sim.call name vs
  | .arithmetic op left right, hp, hn, guarded => by
    rw [Term.resolve, Term.resolve]
    rw [Term.paths] at hp
    rw [Term.names] at hn
    obtain ⟨leftPaths, rightPaths⟩ := List.append_subset.mp hp
    obtain ⟨leftNames, rightNames⟩ := List.append_subset.mp hn
    apply guarded.related
    rw [Term.height] at guarded
    apply sim.bind (resolve_related sim left leftPaths leftNames (guarded.below (by omega)))
    intro x
    apply sim.bind (resolve_related sim right rightPaths rightNames (guarded.below (by omega)))
    intro y
    exact sim.ofExcept_related fun _ => ArithmeticOp.apply_error
  | .cast target term, hp, hn, guarded => by
    rw [Term.resolve, Term.resolve]
    rw [Term.paths] at hp
    rw [Term.names] at hn
    apply guarded.related
    rw [Term.height] at guarded
    by_cases known : (FieldType.ofName target).isKnown
    · simp only [known, ↓reduceIte]
      apply sim.bind (resolve_related sim term hp hn (guarded.below (by omega)))
      intro v
      exact sim.ofExcept_related fun _ => Value.coerce_error
    · simp only [known]
      exact sim.throw _ rfl
  | .dateTime _, _, _, guarded => by
    rw [Term.resolve, Term.resolve, sim.marker]
    exact guarded.related (sim.pure _)
termination_by structural t => t

/-- The terms stand one level below what they are part of, whose depths are given. -/
theorem resolveAll_related (sim : Simulation source other scope scope' paths names)
    {depth depth' : Nat} :
    ∀ ts : List Term, Term.listPaths ts ⊆ paths → Term.listNames ts ⊆ names →
      sim.Guarded depth depth' (Term.listHeight ts) →
      sim.Related (Term.resolveAll source scope (depth + 1) ts)
        (Term.resolveAll other scope' (depth' + 1) ts)
  | [], _, _, _ => by
    rw [Term.resolveAll, Term.resolveAll]
    exact sim.pure []
  | t :: ts, hp, hn, guarded => by
    rw [Term.resolveAll, Term.resolveAll]
    rw [Term.listPaths] at hp
    rw [Term.listNames] at hn
    obtain ⟨headPaths, tailPaths⟩ := List.append_subset.mp hp
    obtain ⟨headNames, tailNames⟩ := List.append_subset.mp hn
    rw [Term.listHeight] at guarded
    apply sim.bind (resolve_related sim t headPaths headNames (guarded.below (by omega)))
    intro v
    apply sim.bind (resolveAll_related sim ts tailPaths tailNames (guarded.mono (by omega)))
    intro vs
    exact sim.pure (v :: vs)
termination_by structural ts => ts

end

section Conditions

variable (sim : Simulation source other scope scope' paths names) {cond : Condition}
  {depth depth' : Nat} (hp : cond.paths ⊆ paths) (hn : cond.names ⊆ names)
  (guarded : sim.Guarded depth depth' cond.height)
include sim hp hn guarded

theorem operands_related {ts : List Term} (subset : ts ⊆ cond.terms) :
    sim.Related (Term.resolveAll source scope (depth + 1) ts)
      (Term.resolveAll other scope' (depth' + 1) ts) := by
  unfold Condition.paths at hp
  unfold Condition.names at hn
  rw [Term.listPaths_eq_flatMap] at hp
  rw [Term.listNames_eq_flatMap] at hn
  apply resolveAll_related sim ts
  · rw [Term.listPaths_eq_flatMap]
    exact List.Subset.trans (flatMap_subset_flatMap subset) hp
  · rw [Term.listNames_eq_flatMap]
    exact List.Subset.trans (flatMap_subset_flatMap subset) hn
  · exact guarded.mono (Term.listHeight_le_of_subset subset)

theorem operand_related {t : Term} (mem : t ∈ cond.terms) :
    sim.Related (t.resolve source scope (depth + 1)) (t.resolve other scope' (depth' + 1)) := by
  unfold Condition.paths at hp
  unfold Condition.names at hn
  rw [Term.listPaths_eq_flatMap] at hp
  rw [Term.listNames_eq_flatMap] at hn
  exact resolve_related sim t (fun p h => hp (List.mem_flatMap_of_mem mem h))
    (fun name h => hn (List.mem_flatMap_of_mem mem h))
    (guarded.below (Term.height_lt_listHeight mem))

theorem left_related :
    sim.Related (cond.left.resolve source scope (depth + 1))
      (cond.left.resolve other scope' (depth' + 1)) :=
  operand_related sim hp hn guarded (by simp [Condition.terms])

theorem right_related :
    sim.Related (cond.right.resolve source scope (depth + 1))
      (cond.right.resolve other scope' (depth' + 1)) :=
  operand_related sim hp hn guarded (by simp [Condition.terms])

theorem resolveCandidates_related :
    sim.Related (cond.resolveCandidates source scope (depth + 1))
      (cond.resolveCandidates other scope' (depth' + 1)) := by
  unfold Condition.resolveCandidates
  have subset : cond.candidates ⊆ cond.terms := by
    intro t mem
    simp [Condition.terms, mem]
  by_cases none : cond.candidates.isEmpty
  · simp only [none, ↓reduceIte]
    exact sim.bind (right_related sim hp hn guarded) fun v => sim.pure v.candidates
  · simp only [none]
    exact operands_related sim hp hn guarded subset

theorem evalComparison_related :
    sim.Related (cond.evalComparison source scope (depth + 1))
      (cond.evalComparison other scope' (depth' + 1)) := by
  unfold Condition.evalComparison
  apply sim.bind (left_related sim hp hn guarded)
  intro x
  apply sim.bind (right_related sim hp hn guarded)
  intro y
  exact sim.ofExcept_related fun _ => Value.compare_error

theorem evalIn_related :
    sim.Related (cond.evalIn source scope (depth + 1)) (cond.evalIn other scope' (depth' + 1)) := by
  unfold Condition.evalIn
  apply sim.bind (left_related sim hp hn guarded)
  intro v
  apply sim.bind (resolveCandidates_related sim hp hn guarded)
  intro vs
  exact sim.pure _

theorem evalNull_related :
    sim.Related (cond.evalNull source scope (depth + 1))
      (cond.evalNull other scope' (depth' + 1)) :=
  sim.bind (left_related sim hp hn guarded) fun v => sim.pure v.isNull

theorem evalLike_related :
    sim.Related (cond.evalLike source scope (depth + 1))
      (cond.evalLike other scope' (depth' + 1)) := by
  unfold Condition.evalLike
  apply sim.bind (left_related sim hp hn guarded)
  intro v
  by_cases null : v.isNull
  · simp only [null, ↓reduceIte]
    exact sim.pure false
  · simp only [null, Bool.false_eq_true, ↓reduceIte]
    by_cases empty : cond.pattern.isEmpty
    · simp only [empty, ↓reduceIte]
      apply sim.bind (right_related sim hp hn guarded)
      intro w
      exact sim.bind (sim.pure w.text) fun pattern => sim.like _ pattern
    · simp only [empty, Bool.false_eq_true, ↓reduceIte]
      exact sim.bind (sim.pure cond.pattern) fun pattern => sim.like _ pattern

theorem evalBetween_related :
    sim.Related (cond.evalBetween source scope (depth + 1))
      (cond.evalBetween other scope' (depth' + 1)) := by
  unfold Condition.evalBetween
  split
  next low high hlow hhigh =>
    apply sim.bind (left_related sim hp hn guarded)
    intro v
    apply sim.bind (operand_related sim hp hn guarded (by simp [Condition.terms, hlow]))
    intro x
    apply sim.bind (operand_related sim hp hn guarded (by simp [Condition.terms, hhigh]))
    intro y
    apply sim.branch_related (sim.ofExcept_related fun _ => Value.compare_error)
    · exact sim.ofExcept_related fun _ => Value.compare_error
    · exact sim.pure false
  next => exact sim.throw _ rfl

theorem evalContains_related :
    sim.Related (cond.evalContains source scope (depth + 1))
      (cond.evalContains other scope' (depth' + 1)) := by
  unfold Condition.evalContains
  apply sim.bind (left_related sim hp hn guarded)
  intro v
  apply sim.bind (right_related sim hp hn guarded)
  intro w
  exact sim.ofExcept_related fun _ => Value.holds_error

theorem evalAnyOf_related :
    sim.Related (cond.evalAnyOf source scope (depth + 1))
      (cond.evalAnyOf other scope' (depth' + 1)) := by
  unfold Condition.evalAnyOf
  apply sim.bind (left_related sim hp hn guarded)
  intro v
  by_cases null : v.isNull
  · simp only [null, ↓reduceIte]
    exact sim.pure false
  · simp only [null]
    cases v.elements? with
    | none => exact sim.throw _ rfl
    | some items =>
      exact sim.bind (resolveCandidates_related sim hp hn guarded) fun vs => sim.pure _

theorem evalOperator_related :
    sim.Related (cond.evalOperator source scope (depth + 1))
      (cond.evalOperator other scope' (depth' + 1)) := by
  unfold Condition.evalOperator
  cases cond.op with
  | isIn => exact evalIn_related sim hp hn guarded
  | notIn => exact sim.map_related _ (evalIn_related sim hp hn guarded)
  | isNull => exact evalNull_related sim hp hn guarded
  | isNotNull => exact sim.map_related _ (evalNull_related sim hp hn guarded)
  | like => exact evalLike_related sim hp hn guarded
  | between => exact evalBetween_related sim hp hn guarded
  | contains => exact evalContains_related sim hp hn guarded
  | anyOf => exact evalAnyOf_related sim hp hn guarded
  | eq | ne | gt | lt | ge | le => exact evalComparison_related sim hp hn guarded

theorem condition_related :
    sim.Related (cond.eval source scope depth) (cond.eval other scope' depth') := by
  unfold Condition.eval
  apply guarded.related
  exact sim.bind (evalOperator_related sim hp hn guarded) fun holds => sim.pure _

end Conditions

section Lists

variable (sim : Simulation source other scope scope' paths names) {depth depth' : Nat}
  (conds : List Condition) (hp : conds.flatMap Condition.paths ⊆ paths)
  (hn : conds.flatMap Condition.names ⊆ names)
  (guarded : sim.Guarded depth depth' (Condition.listHeight conds))
include sim hp hn guarded

theorem someHold_related :
    sim.Related (Condition.someHold source scope (depth + 1) conds)
      (Condition.someHold other scope' (depth' + 1) conds) := by
  induction conds with
  | nil => exact sim.pure false
  | cons cond conds ih =>
    rw [List.flatMap_cons] at hp hn
    obtain ⟨headPaths, tailPaths⟩ := List.append_subset.mp hp
    obtain ⟨headNames, tailNames⟩ := List.append_subset.mp hn
    rw [Condition.listHeight] at guarded
    have headRelated := condition_related sim headPaths headNames (guarded.below (by omega))
    rw [Condition.someHold, Condition.someHold]
    exact sim.branch_related headRelated (sim.pure true)
      (ih tailPaths tailNames (guarded.mono (by omega)))

theorem allHold_related :
    sim.Related (Condition.allHold source scope (depth + 1) conds)
      (Condition.allHold other scope' (depth' + 1) conds) := by
  induction conds with
  | nil => exact sim.pure true
  | cons cond conds ih =>
    rw [List.flatMap_cons] at hp hn
    obtain ⟨headPaths, tailPaths⟩ := List.append_subset.mp hp
    obtain ⟨headNames, tailNames⟩ := List.append_subset.mp hn
    rw [Condition.listHeight] at guarded
    have headRelated := condition_related sim headPaths headNames (guarded.below (by omega))
    rw [Condition.allHold, Condition.allHold]
    exact sim.branch_related headRelated (ih tailPaths tailNames (guarded.mono (by omega)))
      (sim.pure false)

end Lists

mutual

/-- What holds of all that a query finds in two sources and scopes holds of its evaluations. -/
theorem query_related (sim : Simulation source other scope scope' paths names)
    {depth depth' : Nat} :
    ∀ q : Query, q.paths ⊆ paths → q.names ⊆ names → sim.Guarded depth depth' q.height →
      sim.Related (q.eval source scope depth) (q.eval other scope' depth')
  | .mk isOr conds subs, hp, hn, guarded => by
    rw [Query.eval, Query.eval]
    rw [Query.paths] at hp
    rw [Query.names] at hn
    obtain ⟨condPaths, subPaths⟩ := List.append_subset.mp hp
    obtain ⟨condNames, subNames⟩ := List.append_subset.mp hn
    apply guarded.related
    rw [Query.height] at guarded
    have condGuarded := guarded.mono (Nat.le_max_left _ _)
    have subGuarded := guarded.mono (Nat.le_max_right _ _)
    cases isOr with
    | true =>
      apply sim.branch_related
        (someHold_related sim conds condPaths condNames condGuarded) (sim.pure true)
      apply sim.branch_related
        (someQueryHolds_related sim subs subPaths subNames subGuarded) (sim.pure true)
      exact sim.pure _
    | false =>
      apply sim.branch_related (allHold_related sim conds condPaths condNames condGuarded)
      · exact allQueriesHold_related sim subs subPaths subNames subGuarded
      · exact sim.pure false
termination_by structural q => q

theorem someQueryHolds_related (sim : Simulation source other scope scope' paths names)
    {depth depth' : Nat} :
    ∀ qs : List Query, Query.listPaths qs ⊆ paths → Query.listNames qs ⊆ names →
      sim.Guarded depth depth' (Query.listHeight qs) →
      sim.Related (Query.someHold source scope (depth + 1) qs)
        (Query.someHold other scope' (depth' + 1) qs)
  | [], _, _, _ => by
    rw [Query.someHold, Query.someHold]
    exact sim.pure false
  | q :: qs, hp, hn, guarded => by
    rw [Query.someHold, Query.someHold]
    rw [Query.listPaths] at hp
    rw [Query.listNames] at hn
    obtain ⟨headPaths, tailPaths⟩ := List.append_subset.mp hp
    obtain ⟨headNames, tailNames⟩ := List.append_subset.mp hn
    rw [Query.listHeight] at guarded
    exact sim.branch_related (query_related sim q headPaths headNames (guarded.below (by omega)))
      (sim.pure true)
      (someQueryHolds_related sim qs tailPaths tailNames (guarded.mono (by omega)))
termination_by structural qs => qs

theorem allQueriesHold_related (sim : Simulation source other scope scope' paths names)
    {depth depth' : Nat} :
    ∀ qs : List Query, Query.listPaths qs ⊆ paths → Query.listNames qs ⊆ names →
      sim.Guarded depth depth' (Query.listHeight qs) →
      sim.Related (Query.allHold source scope (depth + 1) qs)
        (Query.allHold other scope' (depth' + 1) qs)
  | [], _, _, _ => by
    rw [Query.allHold, Query.allHold]
    exact sim.pure true
  | q :: qs, hp, hn, guarded => by
    rw [Query.allHold, Query.allHold]
    rw [Query.listPaths] at hp
    rw [Query.listNames] at hn
    obtain ⟨headPaths, tailPaths⟩ := List.append_subset.mp hp
    obtain ⟨headNames, tailNames⟩ := List.append_subset.mp hn
    rw [Query.listHeight] at guarded
    exact sim.branch_related (query_related sim q headPaths headNames (guarded.below (by omega)))
      (allQueriesHold_related sim qs tailPaths tailNames (guarded.mono (by omega)))
      (sim.pure false)
termination_by structural qs => qs

end

end Simulation

end FlatRecord
