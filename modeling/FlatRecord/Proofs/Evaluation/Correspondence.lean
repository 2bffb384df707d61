import FlatRecord.Proofs.Evaluation.Simulation

namespace FlatRecord

variable {m n : Type → Type} [Monad m] [Monad n]

/-- A relation of evaluations over two kinds of sources that holds of equal outcomes and is kept
when evaluations are carried out one after the other. -/
structure Correspondence (m n : Type → Type) [Monad m] [Monad n] where
  Related : {α : Type} → Evaluation m α → Evaluation n α → Prop
  pure : ∀ {α : Type} (a : α), Related (pure a) (pure a)
  throw : ∀ {α : Type} (e : EvalError), Related (throw e : Evaluation m α) (throw e)
  bind : ∀ {α β : Type} {x : Evaluation m α} {y : Evaluation n α}
    {f : α → Evaluation m β} {g : α → Evaluation n β},
    Related x y → (∀ a, Related (f a) (g a)) → Related (x >>= f) (y >>= g)

namespace Correspondence

/-- What a query can tell two sources and scopes apart by, if it names only the given paths and
variables. -/
structure Agreement (c : Correspondence m n) (source : Source m) (other : Source n)
    (scope scope' : Scope) (paths names : List String) : Prop where
  field : ∀ path ∈ paths,
    c.Related (ExceptT.lift (source.field path)) (ExceptT.lift (other.field path))
  like : ∀ mode text pattern,
    c.Related (source.like mode text pattern) (other.like mode text pattern)
  config : scope.config = scope'.config
  functions : scope.functions = scope'.functions
  bindings : ∀ name ∈ names, scope.bindings.find? name = scope'.bindings.find? name

variable {c : Correspondence m n} {source : Source m} {other : Source n} {scope scope' : Scope}
  {paths names : List String}

theorem ofExcept_related (c : Correspondence m n) {α : Type} (x : Except EvalError α) :
    c.Related (.ofExcept x) (.ofExcept x) := by
  cases x with
  | ok a => exact c.pure a
  | error e => exact c.throw e

/-- A correspondence that holds of all that is named is kept by every step of a query. -/
def Agreement.simulation (agree : c.Agreement source other scope scope' paths names) :
    Simulation source other scope scope' paths names where
  Related := c.Related
  pure := c.pure
  throw e _ := c.throw e
  bind := c.bind
  field := agree.field
  like text pattern := by
    rw [agree.config]
    exact agree.like _ text pattern
  lookup name mem := by
    unfold Scope.lookup
    rw [agree.bindings _ mem]
    exact c.ofExcept_related _
  call name args := by
    rw [agree.functions]
    exact c.ofExcept_related _
  marker := by rw [agree.config]

/-- Scopes of the same configuration meet the depth limit alike. -/
theorem Agreement.guarded (agree : c.Agreement source other scope scope' paths names)
    (depth levels : Nat) : agree.simulation.Guarded depth depth levels := by
  intro level _
  unfold Scope.guardDepth
  rw [agree.config]
  by_cases deep : scope'.config.maxDepth.toNat < depth + level
  · simp only [deep, ↓reduceIte]
    exact c.throw _
  · simp only [deep, ↓reduceIte]
    exact c.pure ()

section Named

variable (agree : c.Agreement source other scope scope' paths names)
include agree

theorem resolve_related (depth : Nat) (t : Term) (hp : t.paths ⊆ paths) (hn : t.names ⊆ names) :
    c.Related (t.resolve source scope depth) (t.resolve other scope' depth) :=
  agree.simulation.resolve_related t hp hn (agree.guarded depth _)

theorem condition_related {cond : Condition} (hp : cond.paths ⊆ paths) (hn : cond.names ⊆ names)
    (depth : Nat) :
    c.Related (cond.eval source scope depth) (cond.eval other scope' depth) :=
  agree.simulation.condition_related hp hn (agree.guarded depth _)

/-- Sources that correspond on all that a query names give corresponding evaluations of it. -/
theorem query_related (depth : Nat) (q : Query) (hp : q.paths ⊆ paths) (hn : q.names ⊆ names) :
    c.Related (q.eval source scope depth) (q.eval other scope' depth) :=
  agree.simulation.query_related q hp hn (agree.guarded depth _)

end Named

end Correspondence

end FlatRecord
