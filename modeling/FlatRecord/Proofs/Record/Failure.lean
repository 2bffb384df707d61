import FlatRecord.Proofs.Evaluation.Limit
import FlatRecord.Proofs.Like.Cache
import FlatRecord.Record.Eval

namespace FlatRecord

theorem Builtin.apply_error {b : Builtin} {args : List Value} {e : EvalError}
    (h : b.apply args = .error e) : ∃ fault, e = .invalidArgument b.name fault := by
  unfold apply at h
  split at h
  next arg =>
    cases b with
    | upper => cases h
    | lower => cases h
    | len =>
      simp only [length] at h
      split at h
      next => cases h
      next => cases h
      next => split at h <;> cases h
      next =>
        cases h
        exact ⟨_, rfl⟩
  next =>
    cases h
    exact ⟨_, rfl⟩

namespace Registry

/-- The functions of users fail only with errors of one sort. -/
def FailsOnly (r : Registry) (sort : EvalError → Prop) : Prop :=
  ∀ name f, r.get? name = some f → ∀ args e, f args = .error e → sort e

variable {sort : EvalError → Prop}

theorem failsOnly_empty : FailsOnly {} sort := by
  rintro name f ⟨⟩

theorem FailsOnly.register {r : Registry} (only : r.FailsOnly sort) (name : String) {f : Function}
    (total : ∀ args, ∃ v, f args = .ok v) : (r.register name f).FailsOnly sort := by
  intro other g found args e failed
  unfold get? Registry.register at found
  by_cases same : other = name
  · rw [same, KeyMap.find?_insert_self] at found
    cases found
    obtain ⟨v, value⟩ := total args
    rw [value] at failed
    cases failed
  · rw [KeyMap.find?_insert_of_ne _ same] at found
    exact only other g found args e failed

/-- A call fails as the user's function of this name does, or as a built-in one, or because there is
no such function. -/
theorem FailsOnly.call {r : Registry} (only : r.FailsOnly sort)
    (argument : ∀ function fault, sort (.invalidArgument function fault))
    (unknown : ∀ name, sort (.unknownFunction name)) {name : String} {args : List Value}
    {e : EvalError} (h : r.call name args = .error e) : sort e := by
  unfold Registry.call at h
  cases user : r.get? name with
  | some f =>
    rw [user] at h
    exact only name f user args e h
  | none =>
    rw [user] at h
    cases builtin : Builtin.ofName? name with
    | some b =>
      rw [builtin] at h
      obtain ⟨fault, rfl⟩ := Builtin.apply_error h
      exact argument _ fault
    | none =>
      rw [builtin] at h
      cases h
      exact unknown name

end Registry

namespace Record

/-- An evaluation that fails only with errors of one sort, whatever record it starts from. -/
def FailsOnly (sort : EvalError → Prop) {α : Type} (x : Evaluation (StateM Record) α) : Prop :=
  ∀ r e, ((x.run).run r).1 = .error e → sort e

section FailsOnly

variable {sort : EvalError → Prop} {α β : Type}

theorem failsOnly_pure (a : α) : FailsOnly sort (pure a) := by
  intro r e h
  cases h

theorem failsOnly_throw {e : EvalError} (h : sort e) :
    FailsOnly sort (throw e : Evaluation (StateM Record) α) := by
  intro r _ failed
  cases failed
  exact h

theorem failsOnly_ofExcept {x : Except EvalError α} (h : ∀ e, x = .error e → sort e) :
    FailsOnly sort (.ofExcept x) := by
  cases x with
  | ok a => exact failsOnly_pure a
  | error e => exact failsOnly_throw (h e rfl)

theorem failsOnly_lift (x : StateM Record α) : FailsOnly sort (ExceptT.lift x) := by
  intro r e h
  cases h

theorem failsOnly_like (operator : ∀ e, e.isOfOperator = true → sort e) (mode : LikeMode)
    (text pattern : String) : FailsOnly sort (source.like mode text pattern) := by
  intro r e h
  have failed : (r.patterns.test mode text pattern).1 = .error e := h
  obtain ⟨fault, rfl⟩ := Like.Cache.malformed_of_test failed
  exact operator _ rfl

theorem FailsOnly.bind {x : Evaluation (StateM Record) α} {f : α → Evaluation (StateM Record) β}
    (hx : FailsOnly sort x) (hf : ∀ a, FailsOnly sort (f a)) : FailsOnly sort (x >>= f) := by
  intro r e h
  rw [ExceptT.run_bind, StateT.run_bind] at h
  rcases out : (x.run).run r with ⟨result, after⟩
  rw [out] at h
  cases result with
  | ok a => exact hf a after e h
  | error e' =>
    cases h
    exact hx r e (by rw [out])

theorem failsOnly_guardDepth {scope : Scope} {depth : Nat}
    (h : scope.config.maxDepth.toNat < depth →
      sort (.depthExceeded scope.config.maxDepth.toNat)) :
    FailsOnly sort (scope.guardDepth depth) := by
  by_cases deep : scope.config.maxDepth.toNat < depth
  · rw [Scope.guardDepth_eq_throw deep]
    exact failsOnly_throw (h deep)
  · rw [Scope.guardDepth_eq_pure (Nat.le_of_not_lt deep)]
    exact failsOnly_pure ()

end FailsOnly

/-- Every step of a query fails only with errors of one sort, if those of operators, of functions
and of the variables that it names are of this sort. -/
def failing (sort : EvalError → Prop) (scope : Scope) (paths names : List String)
    (operator : ∀ e, e.isOfOperator = true → sort e)
    (lookup : ∀ name, plainName name ∈ names → ∀ e, scope.lookup name = .error e → sort e)
    (call : ∀ name args e, scope.functions.call name args = .error e → sort e) :
    Simulation source source scope scope paths names where
  Related x _ := FailsOnly sort x
  pure a := failsOnly_pure a
  throw e h := failsOnly_throw (operator e h)
  bind hx hf := hx.bind hf
  field _ _ := failsOnly_lift _
  like text pattern := failsOnly_like operator _ text pattern
  lookup name named := failsOnly_ofExcept (lookup name named)
  call name args := failsOnly_ofExcept (call name args)
  marker := rfl

end Record

end FlatRecord
