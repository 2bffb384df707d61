import FlatRecord.Proofs.Evaluation.Limit
import FlatRecord.Proofs.Evaluation.Parts
import FlatRecord.Proofs.Record.Coherent

namespace FlatRecord

namespace UnlessCutOff

theorem settle_map {α : Type} (decisive final : Bool) {f g : α → Evaluation Id Bool}
    (h : ∀ a, UnlessCutOff (f a) (g a)) (as : List α) :
    UnlessCutOff (Evaluation.settle decisive final (as.map f))
      (Evaluation.settle decisive final (as.map g)) := by
  induction as with
  | nil => exact .refl _
  | cons a as ih =>
    rw [List.map_cons, List.map_cons, Evaluation.settle, Evaluation.settle]
    apply bind (h a)
    intro holds
    split
    · exact .refl _
    · exact ih

end UnlessCutOff

theorem Condition.eval_shallower (source : Source Id) (scope : Scope) (depth : Nat)
    (c : Condition) :
    UnlessCutOff (c.eval source scope (depth + 1)) (c.eval source scope depth) :=
  eval_unlessCutOff source (Nat.add_le_add_right (Nat.le_succ depth) scope.config.maxDepth.toNat) c

namespace Query

/-- The query within queries of nothing else, of which each is an OR or not, the outermost first. -/
def wrap (q : Query) : List Bool → Query
  | [] => q
  | isOr :: layers => .mk isOr [] [q.wrap layers]

variable (source : Source Id) (scope : Scope) (depth : Nat)

theorem eval_shallower (q : Query) :
    UnlessCutOff (q.eval source scope (depth + 1)) (q.eval source scope depth) :=
  eval_unlessCutOff source (Nat.add_le_add_right (Nat.le_succ depth) scope.config.maxDepth.toNat) q

theorem settle_shallower (decisive final : Bool) (q : Query) :
    UnlessCutOff (Evaluation.settle decisive final (q.parts source scope (depth + 1)))
      (Evaluation.settle decisive final (q.parts source scope depth)) := by
  obtain ⟨isOr, conditions, subQueries⟩ := q
  rw [parts, parts, Evaluation.settle_append, Evaluation.settle_append]
  apply UnlessCutOff.bind
  · exact .settle_map _ _ (Condition.eval_shallower source scope depth) conditions
  · intro holds
    split
    · exact .refl _
    · exact .settle_map _ _ (eval_shallower source scope depth) subQueries

theorem parts_splice (isOr : Bool) (cs ds : List Condition) (ts rest : List Query) :
    (mk isOr (cs ++ ds) (ts ++ rest)).parts source scope depth =
      cs.map (Condition.eval source scope depth) ++
        ((mk isOr ds ts).parts source scope depth ++ rest.map (eval source scope depth)) := by
  simp only [parts, List.map_append, List.append_assoc]

/-- The parts of a query within another one of the same connective may as well be parts of that
one, unless it is an OR of nothing, which holds. -/
theorem eval_splice {isOr : Bool} (cs : List Condition) {ds : List Condition} {ts : List Query}
    (rest : List Query) (occupied : isOr = true → ds ≠ [] ∨ ts ≠ []) :
    UnlessCutOff ((mk isOr cs (mk isOr ds ts :: rest)).eval source scope depth)
      ((mk isOr (cs ++ ds) (ts ++ rest)).eval source scope depth) := by
  have inner : UnlessCutOff ((mk isOr ds ts).eval source scope (depth + 1))
      (Evaluation.settle isOr (!isOr) ((mk isOr ds ts).parts source scope (depth + 1))) := by
    rw [eval_of_occupied _ _ _ occupied]
    -- The inner query guards its own depth and has its parts one level further down.
    exact (UnlessCutOff.unguarded _ _ _).trans (settle_shallower source scope (depth + 1) _ _ _)
  have spliced : isOr = true → cs ++ ds ≠ [] ∨ ts ++ rest ≠ [] := by
    intro eq
    rcases occupied eq with some | some
    · exact .inl (List.append_ne_nil_of_right_ne_nil _ some)
    · exact .inr (List.append_ne_nil_of_left_ne_nil some _)
  rw [eval_of_occupied _ _ _ fun _ => .inr (List.cons_ne_nil _ _),
    eval_of_occupied _ _ _ spliced, parts_splice, parts, List.map_cons, Evaluation.settle_append,
    Evaluation.settle_append]
  apply UnlessCutOff.bind (.refl _)
  intro _
  apply UnlessCutOff.bind (.refl _)
  intro holds
  split
  · exact .refl _
  · rw [Evaluation.settle, Evaluation.settle_append]
    exact inner.bind fun _ => .refl _

theorem eval_wrap (q : Query) (layers : List Bool) (depth : Nat) :
    UnlessCutOff ((q.wrap layers).eval source scope depth) (q.eval source scope depth) := by
  induction layers with
  | nil => exact .refl _
  | cons isOr layers ih =>
    have single : (q.wrap (isOr :: layers)).eval source scope depth =
        scope.guardDepth depth >>= fun _ => (q.wrap layers).eval source scope (depth + 1) := by
      rw [wrap, eval_of_occupied _ _ _ fun _ => .inr (List.cons_ne_nil _ _)]
      apply bind_congr
      intro _
      exact Evaluation.settle_single _ _
    rw [single]
    exact (UnlessCutOff.unguarded _ _ _).trans ((eval_shallower _ _ _ _).trans ih)

end Query

namespace Record

/-- Unless the depth limit is met, it makes no difference whether the parts of a query stand in it
or in a query within it of the same connective, nor how many queries of nothing else a query stands
in: the answer or the error is the same. -/
theorem satisfies_regrouped {r : Record} (reached : Reached r) :
    (∀ (isOr : Bool) (cs ds : List Condition) (ts rest : List Query),
      (isOr = true → ds ≠ [] ∨ ts ≠ []) →
        ¬CutOff (r.satisfies (.mk isOr cs (.mk isOr ds ts :: rest))) →
          r.satisfies (.mk isOr (cs ++ ds) (ts ++ rest)) =
            r.satisfies (.mk isOr cs (.mk isOr ds ts :: rest))) ∧
    ∀ (q : Query) (layers : List Bool), ¬CutOff (r.satisfies (q.wrap layers)) →
      r.satisfies q = r.satisfies (q.wrap layers) := by
  have faithful := reached.coherent.toFaithful
  constructor
  · intro isOr cs ds ts rest occupied whole
    rw [faithful.satisfies_eq] at whole ⊢
    rw [faithful.satisfies_eq]
    have same := Query.eval_splice r.plainSource r.scope 0 cs rest occupied
    exact congrArg ExceptT.run (same whole)
  · intro q layers whole
    rw [faithful.satisfies_eq] at whole ⊢
    rw [faithful.satisfies_eq]
    have same := q.eval_wrap r.plainSource r.scope layers 0
    exact congrArg ExceptT.run (same whole)

/-- An OR that is settled within the inner query, an AND that fails there, and three layers. -/
theorem satisfies_regrouped_mixed :
    ∃ (r : Record) (present absent unbound : Condition), Reached r ∧
      r.satisfies (.mk true [absent] [.mk true [absent] [.all [present]], .any [unbound]]) =
        .ok true ∧
      r.satisfies (.mk true [absent, absent] [.all [present], .any [unbound]]) = .ok true ∧
      r.satisfies (.mk false [present] [.mk false [] [.any [unbound]], .all [absent]]) =
        .error (.unresolvedVariable "x") ∧
      r.satisfies (.mk false [present] [.any [unbound], .all [absent]]) =
        .error (.unresolvedVariable "x") ∧
      r.satisfies ((Query.all [present]).wrap [true, false, true]) = .ok true ∧
      r.satisfies (Query.all [present]) = .ok true := by
  let r := ofFlat [("a", .int 1)]
  let present : Condition := .isNotNull (.property "a")
  let absent : Condition := .isNull (.property "a")
  let unbound : Condition := .isNull (.binding "x")
  have reached : Reached r := .ofFlat _
  obtain ⟨splice, wrap⟩ := satisfies_regrouped reached
  have whole : ∀ b, ¬CutOff (.ok b : Except EvalError Bool) := by
    rintro b ⟨limit, ⟨⟩⟩
  have answer : r.satisfies (.mk true [absent] [.mk true [absent] [.all [present]],
      .any [unbound]]) = .ok true := rfl
  have error : r.satisfies (.mk false [present] [.mk false [] [.any [unbound]],
      .all [absent]]) = .error (.unresolvedVariable "x") := rfl
  have layers : r.satisfies ((Query.all [present]).wrap [true, false, true]) = .ok true := rfl
  refine ⟨r, present, absent, unbound, reached, answer, ?_, error, ?_, layers, ?_⟩
  · rw [← answer]
    exact splice true [absent] [absent] [.all [present]] [.any [unbound]]
      (fun _ => .inl (List.cons_ne_nil _ _)) (answer ▸ whole true)
  · rw [← error]
    refine splice false [present] [] [.any [unbound]] [.all [absent]] nofun ?_
    rw [error]
    rintro ⟨limit, ⟨⟩⟩
  · rw [← layers]
    exact wrap (.all [present]) [true, false, true] (layers ▸ whole true)

end Record

end FlatRecord
