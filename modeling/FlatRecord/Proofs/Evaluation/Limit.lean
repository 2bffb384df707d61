import FlatRecord.Proofs.Evaluation.Simulation

namespace FlatRecord

/-- The evaluation has met the depth limit. -/
def CutOff {α : Type} (x : Except EvalError α) : Prop := ∃ limit, x = .error (.depthExceeded limit)

def Scope.withLimit (scope : Scope) (limit : UInt64) : Scope :=
  { scope with config := { scope.config with maxDepth := limit } }

theorem Scope.dateTimeMarker_withLimit (scope : Scope) (limit : UInt64) :
    (scope.withLimit limit).config.dateTimeMarker = scope.config.dateTimeMarker := rfl

theorem Scope.guardDepth_eq_pure {m : Type → Type} [Monad m] {scope : Scope} {depth : Nat}
    (h : depth ≤ scope.config.maxDepth.toNat) :
    (scope.guardDepth depth : Evaluation m Unit) = pure () :=
  if_neg (Nat.not_lt.mpr h)

theorem Scope.guardDepth_eq_throw {m : Type → Type} [Monad m] {scope : Scope} {depth : Nat}
    (h : scope.config.maxDepth.toNat < depth) :
    (scope.guardDepth depth : Evaluation m Unit) =
      throw (.depthExceeded scope.config.maxDepth.toNat) :=
  if_pos h

section

variable {α β : Type}

theorem Evaluation.bind_eq_ok {x : Evaluation Id α} {f : α → Evaluation Id β} {b : β}
    (h : (x >>= f).run = .ok b) : ∃ a, x.run = .ok a ∧ (f a).run = .ok b := by
  rw [ExceptT.run_bind] at h
  cases out : x.run with
  | ok a =>
    rw [out] at h
    exact ⟨a, rfl, h⟩
  | error e =>
    rw [out] at h
    cases h

theorem Scope.le_of_guardDepth {scope : Scope} {depth : Nat}
    (h : (scope.guardDepth depth : Evaluation Id Unit).run = .ok ()) :
    depth ≤ scope.config.maxDepth.toNat := by
  apply Nat.le_of_not_lt
  intro deep
  rw [guardDepth_eq_throw deep] at h
  cases h

theorem Scope.le_of_not_cutOff {scope : Scope} {depth : Nat} {f : Unit → Evaluation Id α}
    (h : ¬CutOff (scope.guardDepth depth >>= f).run) : depth ≤ scope.config.maxDepth.toNat := by
  apply Nat.le_of_not_lt
  intro deep
  rw [guardDepth_eq_throw deep] at h
  exact h ⟨_, rfl⟩

/-- An evaluation that is cut off, or else is the same as another. -/
def UnlessCutOff (x y : Evaluation Id α) : Prop := ¬CutOff x.run → y = x

namespace UnlessCutOff

theorem refl (x : Evaluation Id α) : UnlessCutOff x x := fun _ => rfl

theorem trans {x y z : Evaluation Id α} (hxy : UnlessCutOff x y) (hyz : UnlessCutOff y z) :
    UnlessCutOff x z := by
  intro whole
  have eq := hxy whole
  rw [← eq] at whole ⊢
  exact hyz whole

theorem bind {x y : Evaluation Id α} {f g : α → Evaluation Id β} (hxy : UnlessCutOff x y)
    (hfg : ∀ a, UnlessCutOff (f a) (g a)) : UnlessCutOff (x >>= f) (y >>= g) := by
  intro whole
  -- An error of the first part is the error of the whole.
  have first : ¬CutOff x.run := by
    rintro ⟨limit, cut⟩
    apply whole
    exact ⟨limit, by rw [ExceptT.run_bind, cut]; rfl⟩
  rw [hxy first]
  cases out : x.run with
  | ok a =>
    have value : x = pure a := out
    rw [value, pure_bind] at whole ⊢
    rw [pure_bind]
    exact hfg a whole
  | error e =>
    have failed : x = throw e := out
    rw [failed]
    rfl

theorem guardDepth {scope : Scope} {limit : UInt64} {depth depth' : Nat}
    (h : depth' + scope.config.maxDepth.toNat ≤ depth + limit.toNat) :
    UnlessCutOff (scope.guardDepth depth) ((scope.withLimit limit).guardDepth depth') := by
  intro whole
  have within : depth ≤ scope.config.maxDepth.toNat := by
    rw [← bind_pure (scope.guardDepth depth)] at whole
    exact Scope.le_of_not_cutOff whole
  have within' : depth' ≤ (scope.withLimit limit).config.maxDepth.toNat := by
    change depth' ≤ limit.toNat
    omega
  rw [Scope.guardDepth_eq_pure within, Scope.guardDepth_eq_pure within']

/-- Not to guard the depth makes no other difference. -/
theorem unguarded (scope : Scope) (depth : Nat) (x : Evaluation Id α) :
    UnlessCutOff (scope.guardDepth depth >>= fun _ => x) x := by
  intro whole
  rw [Scope.guardDepth_eq_pure (Scope.le_of_not_cutOff whole), pure_bind]

end UnlessCutOff

end

section

variable (source : Source Id)

/-- Another limit changes nothing for an evaluation that is not cut off. -/
def limiting (scope : Scope) (limit : UInt64) (paths names : List String) :
    Simulation source source scope (scope.withLimit limit) paths names where
  Related := UnlessCutOff
  pure a := .refl (pure a)
  throw e _ := .refl (throw e)
  bind := .bind
  field _ _ := .refl _
  like _ _ := .refl _
  lookup _ _ := .refl _
  call _ _ := .refl _
  marker := (scope.dateTimeMarker_withLimit limit).symm

variable {scope : Scope}

section Depths

variable {limit : UInt64} {depth depth' : Nat}
  (h : depth' + scope.config.maxDepth.toNat ≤ depth + limit.toNat)
include h

theorem limiting_guarded (paths names : List String) (levels : Nat) :
    (limiting source scope limit paths names).Guarded depth depth' levels := by
  intro level _
  exact UnlessCutOff.guardDepth (by omega)

/-- A condition that is not cut off is evaluated alike where as many levels or more remain up to
the limit. -/
theorem Condition.eval_unlessCutOff (c : Condition) :
    UnlessCutOff (c.eval source scope depth) (c.eval source (scope.withLimit limit) depth') :=
  (limiting source scope limit c.paths c.names).condition_related (List.Subset.refl _)
    (List.Subset.refl _) (limiting_guarded source h _ _ _)

/-- A query that is not cut off is evaluated alike where as many levels or more remain up to the
limit. -/
theorem Query.eval_unlessCutOff (q : Query) :
    UnlessCutOff (q.eval source scope depth) (q.eval source (scope.withLimit limit) depth') :=
  (limiting source scope limit q.paths q.names).query_related q (List.Subset.refl _)
    (List.Subset.refl _) (limiting_guarded source h _ _ _)

end Depths

mutual

/-- A term is resolved only within the limit: all of its nodes are visited. -/
theorem Term.height_le_of_resolve {depth : Nat} : ∀ {t : Term} {v : Value},
    (t.resolve source scope depth).run = .ok v → depth + t.height ≤ scope.config.maxDepth.toNat
  | .property _, _, h | .literal _, _, h | .binding _, _, h | .dateTime _, _, h => by
    rw [Term.resolve] at h
    obtain ⟨_, guarded, _⟩ := Evaluation.bind_eq_ok h
    exact Scope.le_of_guardDepth guarded
  | .call _ args, _, h => by
    rw [Term.resolve] at h
    obtain ⟨_, guarded, h⟩ := Evaluation.bind_eq_ok h
    obtain ⟨_, resolved, _⟩ := Evaluation.bind_eq_ok h
    exact Term.listHeight_le_of_resolveAll (Scope.le_of_guardDepth guarded) resolved
  | .arithmetic _ left right, _, h => by
    rw [Term.resolve] at h
    obtain ⟨_, _, h⟩ := Evaluation.bind_eq_ok h
    obtain ⟨_, onLeft, h⟩ := Evaluation.bind_eq_ok h
    obtain ⟨_, onRight, _⟩ := Evaluation.bind_eq_ok h
    have leftWithin := Term.height_le_of_resolve onLeft
    have rightWithin := Term.height_le_of_resolve onRight
    rw [Term.height]
    omega
  | .cast target term, _, h => by
    rw [Term.resolve] at h
    obtain ⟨_, _, h⟩ := Evaluation.bind_eq_ok h
    simp only at h
    split at h
    next =>
      obtain ⟨_, inner, _⟩ := Evaluation.bind_eq_ok h
      have within := Term.height_le_of_resolve inner
      rw [Term.height]
      omega
    next => cases h
termination_by structural t => t

theorem Term.listHeight_le_of_resolveAll {depth : Nat}
    (h : depth ≤ scope.config.maxDepth.toNat) : ∀ {ts : List Term} {vs : List Value},
    (Term.resolveAll source scope (depth + 1) ts).run = .ok vs →
      depth + Term.listHeight ts ≤ scope.config.maxDepth.toNat
  | [], _, _ => h
  | t :: ts, _, resolved => by
    rw [Term.resolveAll] at resolved
    obtain ⟨_, head, resolved⟩ := Evaluation.bind_eq_ok resolved
    obtain ⟨_, tail, _⟩ := Evaluation.bind_eq_ok resolved
    have headWithin := Term.height_le_of_resolve head
    have tailWithin := Term.listHeight_le_of_resolveAll h tail
    rw [Term.listHeight]
    omega
termination_by structural ts => ts

end

end

end FlatRecord
