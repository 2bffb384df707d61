import FlatRecord.Proofs.Evaluation.Resolved
import FlatRecord.Proofs.Record.Faithful

namespace FlatRecord

namespace Record

variable {r : Record} (faithful : r.Faithful) {depth : Nat} {t : Term} {v : Value}
include faithful

theorem Faithful.resolve_eq_pure (h : r.termAt depth t = .ok v) :
    t.resolve r.plainSource r.scope depth = pure v := by
  rw [faithful.termAt_eq] at h
  exact h

section Operand

variable (operand : r.termAt (depth + 1) t = .ok v)
include operand

/-- A cast to a known type brings the value of its term to this type. -/
theorem Faithful.termAt_cast {target : String}
    (known : (FieldType.ofName target).isKnown = true) :
    r.termAt depth (.cast target t) =
      (v.coerce (.ofName target)).mapError .conversion := by
  rw [faithful.termAt_eq, Term.resolve_cast (faithful.resolve_eq_pure operand) known,
    Evaluation.run_ofExcept]

theorem Faithful.termAt_arithmetic (op : ArithmeticOp) {u : Term} {w : Value}
    (right : r.termAt (depth + 1) u = .ok w) :
    r.termAt depth (.arithmetic op t u) = op.apply v w := by
  rw [faithful.termAt_eq, Term.resolve_arithmetic (faithful.resolve_eq_pure operand) op
    (faithful.resolve_eq_pure right), Evaluation.run_ofExcept]

end Operand

end Record

end FlatRecord
