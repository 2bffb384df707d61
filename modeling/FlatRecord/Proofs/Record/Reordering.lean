import FlatRecord.Proofs.Evaluation.Limit
import FlatRecord.Proofs.Evaluation.Parts
import FlatRecord.Proofs.Record.Coherent
import Mathlib.Data.List.Forall2

namespace FlatRecord

/-- Queries that differ in nothing but the order of conditions and further queries at any level. -/
inductive Query.Reordered : Query → Query → Prop
  | mk {isOr : Bool} {cs cs' : List Condition} {qs rs qs' : List Query} :
      cs.Perm cs' → List.Forall₂ Query.Reordered qs rs → rs.Perm qs' →
        Query.Reordered (.mk isOr cs qs) (.mk isOr cs' qs')

namespace Evaluation

/-- Evaluations that give the same answer if both give one. -/
def Agree (x y : Evaluation Id Bool) : Prop := ∀ b b', x.run = .ok b → y.run = .ok b' → b = b'

theorem Agree.refl (x : Evaluation Id Bool) : Agree x x := by
  intro b b' hb hb'
  rw [hb] at hb'
  exact Except.ok.inj hb'

/-- An answer is the decisive one because of some part, or the final one in spite of all. -/
theorem settle_eq_ok {decisive final b : Bool} {xs : List (Evaluation Id Bool)}
    (h : (settle decisive final xs).run = .ok b) :
    (b = decisive ∧ ∃ x ∈ xs, x.run = .ok decisive) ∨
      (b = final ∧ ∀ x ∈ xs, x.run = .ok (!decisive)) := by
  induction xs with
  | nil =>
    cases h
    exact .inr ⟨rfl, nofun⟩
  | cons x xs ih =>
    obtain ⟨holds, answer, h⟩ := bind_eq_ok h
    by_cases settled : holds = decisive
    · rw [if_pos settled] at h
      cases h
      exact .inl ⟨rfl, x, List.mem_cons_self, settled ▸ answer⟩
    · rw [if_neg settled] at h
      have other : x.run = .ok (!decisive) := by rw [answer, Bool.eq_not.mpr settled]
      rcases ih h with ⟨eq, y, mem, decided⟩ | ⟨eq, all⟩
      · exact .inl ⟨eq, y, List.mem_cons_of_mem _ mem, decided⟩
      · exact .inr ⟨eq, List.forall_mem_cons.mpr ⟨other, all⟩⟩

/-- Each evaluation on one side agrees with one on the other side. -/
structure Matched (xs ys : List (Evaluation Id Bool)) : Prop where
  forth : ∀ x ∈ xs, ∃ y ∈ ys, Agree x y
  back : ∀ y ∈ ys, ∃ x ∈ xs, Agree x y

namespace Matched

variable {xs ys zs : List (Evaluation Id Bool)}

theorem of_perm (perm : xs.Perm ys) : Matched xs ys where
  forth x mem := ⟨x, perm.mem_iff.mp mem, .refl x⟩
  back y mem := ⟨y, perm.mem_iff.mpr mem, .refl y⟩

theorem perm (matched : Matched xs ys) (perm : ys.Perm zs) : Matched xs zs where
  forth x mem := by
    obtain ⟨y, there, agree⟩ := matched.forth x mem
    exact ⟨y, perm.mem_iff.mp there, agree⟩
  back z mem := matched.back z (perm.mem_iff.mpr mem)

theorem append {xs' ys' : List (Evaluation Id Bool)} (matched : Matched xs ys)
    (matched' : Matched xs' ys') : Matched (xs ++ xs') (ys ++ ys') where
  forth x mem := by
    rcases List.mem_append.mp mem with mem | mem
    · obtain ⟨y, there, agree⟩ := matched.forth x mem
      exact ⟨y, List.mem_append_left _ there, agree⟩
    · obtain ⟨y, there, agree⟩ := matched'.forth x mem
      exact ⟨y, List.mem_append_right _ there, agree⟩
  back y mem := by
    rcases List.mem_append.mp mem with mem | mem
    · obtain ⟨x, there, agree⟩ := matched.back y mem
      exact ⟨x, List.mem_append_left _ there, agree⟩
    · obtain ⟨x, there, agree⟩ := matched'.back y mem
      exact ⟨x, List.mem_append_right _ there, agree⟩

theorem cons {x y : Evaluation Id Bool} (agree : Agree x y) (matched : Matched xs ys) :
    Matched (x :: xs) (y :: ys) := by
  have single : Matched [x] [y] := by
    constructor
    · intro x' mem
      cases List.mem_singleton.mp mem
      exact ⟨y, List.mem_cons_self, agree⟩
    · intro y' mem
      cases List.mem_singleton.mp mem
      exact ⟨x, List.mem_cons_self, agree⟩
  exact single.append matched

/-- Where a part is decisive on one side, the part that agrees with it is not passed over on the
other side. -/
theorem settle_agree (matched : Matched xs ys) (decisive final : Bool) :
    Agree (settle decisive final xs) (settle decisive final ys) := by
  intro b b' hb hb'
  have differ : decisive ≠ !decisive := by cases decisive <;> decide
  rcases settle_eq_ok hb with ⟨eq, x, mem, decided⟩ | ⟨eq, passed⟩
  · rcases settle_eq_ok hb' with ⟨eq', _⟩ | ⟨_, passed'⟩
    · exact eq.trans eq'.symm
    · obtain ⟨y, there, agree⟩ := matched.forth x mem
      exact absurd (agree _ _ decided (passed' y there)) differ
  · rcases settle_eq_ok hb' with ⟨_, y, mem', decided'⟩ | ⟨eq', _⟩
    · obtain ⟨x, there, agree⟩ := matched.back y mem'
      exact absurd (agree _ _ (passed x there) decided').symm differ
    · exact eq.trans eq'.symm

end Matched

end Evaluation

namespace Query

theorem Reordered.unsettled_eq {q q' : Query} (reordered : q.Reordered q') :
    q.unsettled = q'.unsettled := by
  cases reordered with
  | @mk isOr cs cs' qs rs qs' conds related subs =>
    have sameSubs : qs.isEmpty = qs'.isEmpty := by
      rw [← subs.isEmpty_eq]
      cases related <;> rfl
    change (!isOr || (cs.isEmpty && qs.isEmpty)) = (!isOr || (cs'.isEmpty && qs'.isEmpty))
    rw [conds.isEmpty_eq, sameSubs]

variable (source : Source Id) (scope : Scope)

mutual

/-- Runs in two orders may stop at different parts and may fail at different parts, but never give
opposite answers. -/
theorem eval_agree_of_reordered (depth : Nat) : ∀ {q q' : Query}, q.Reordered q' →
    Evaluation.Agree (q.eval source scope depth) (q'.eval source scope depth)
  | .mk isOr cs qs, q', reordered => by
    have final := reordered.unsettled_eq
    obtain ⟨conds, related, subs⟩ := reordered
    have sameConds := Evaluation.Matched.of_perm
      (conds.map (Condition.eval source scope (depth + 1)))
    have sameSubs := (matched_of_reordered (depth + 1) related).perm (subs.map _)
    rw [eval_eq_settle, eval_eq_settle, ← final]
    intro b b' hb hb'
    obtain ⟨_, _, hb⟩ := Evaluation.bind_eq_ok hb
    obtain ⟨_, _, hb'⟩ := Evaluation.bind_eq_ok hb'
    exact (sameConds.append sameSubs).settle_agree _ _ b b' hb hb'
termination_by structural q => q

theorem matched_of_reordered (depth : Nat) : ∀ {qs rs : List Query},
    List.Forall₂ Reordered qs rs →
      Evaluation.Matched (qs.map (eval source scope depth)) (rs.map (eval source scope depth))
  | [], _, related => by
    cases related
    exact .of_perm (.refl _)
  | q :: qs, _, related => by
    cases related with
    | cons reordered rest =>
      exact (matched_of_reordered depth rest).cons (eval_agree_of_reordered depth reordered)
termination_by structural qs => qs

end

end Query

namespace Record

/-- The order of conditions and further queries does not count at any level of a query, as far as
it is answered in both orders. -/
theorem satisfies_eq_of_reordered {r : Record} (reached : Reached r) {q q' : Query}
    (reordered : q.Reordered q') {b b' : Bool} (answer : r.satisfies q = .ok b)
    (answer' : r.satisfies q' = .ok b') : b = b' := by
  rw [reached.coherent.satisfies_eq] at answer answer'
  exact Query.eval_agree_of_reordered r.plainSource r.scope 0 reordered b b' answer answer'

/-- Both orders pass over the unbound variable, each by other parts of the query, which a third
order does not. -/
theorem satisfies_eq_of_reordered_settled :
    ∃ (r : Record) (present absent unbound : Condition) (q q' q'' : Query), Reached r ∧
      q = .mk false [present] [.any [present, unbound],
        .mk true [absent] [.all [absent, unbound], .any [present]]] ∧
      q' = .mk false [present] [.mk true [absent] [.any [present], .all [unbound, absent]],
        .any [present, unbound]] ∧
      q'' = .mk false [present] [.any [unbound, present],
        .mk true [absent] [.all [absent, unbound], .any [present]]] ∧
      q.Reordered q' ∧ q.Reordered q'' ∧ r.satisfies q = .ok true ∧ r.satisfies q' = .ok true ∧
      (∀ b, r.satisfies q' = .ok b → true = b) ∧
      r.satisfies q'' = .error (.unresolvedVariable "x") := by
  let r := ofFlat [("a", .int 1)]
  let present : Condition := .isNotNull (.property "a")
  let absent : Condition := .isNull (.property "a")
  let unbound : Condition := .isNull (.binding "x")
  have reached : Reached r := .ofFlat _
  have flat : ∀ {isOr : Bool} {cs cs' : List Condition}, cs.Perm cs' →
      (Query.mk isOr cs []).Reordered (.mk isOr cs' []) :=
    fun conds => .mk conds .nil (.refl _)
  have inner : ∀ {q : Query}, (Query.all [absent, unbound]).Reordered q →
      List.Forall₂ Query.Reordered [.all [absent, unbound], .any [present]] [q, .any [present]] :=
    fun reordered => .cons reordered (.cons (flat (.refl _)) .nil)
  let q : Query := .mk false [present] [.any [present, unbound],
    .mk true [absent] [.all [absent, unbound], .any [present]]]
  let q' : Query := .mk false [present] [.mk true [absent] [.any [present], .all [unbound, absent]],
    .any [present, unbound]]
  have reordered : q.Reordered q' :=
    .mk (.refl _) (.cons (flat (.refl _))
      (.cons (.mk (.refl _) (inner (flat (.swap ..))) (.swap ..)) .nil)) (.swap ..)
  refine ⟨r, present, absent, unbound, q, q', _, reached, rfl, rfl, rfl, reordered, ?_, rfl, rfl,
    fun b => satisfies_eq_of_reordered reached reordered rfl, rfl⟩
  exact .mk (.refl _) (.cons (flat (.swap ..))
    (.cons (.mk (.refl _) (inner (flat (.refl _))) (.refl _)) .nil)) (.refl _)

end Record

end FlatRecord
