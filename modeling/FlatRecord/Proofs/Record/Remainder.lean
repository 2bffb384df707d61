import FlatRecord.Proofs.Record.Coherent
import FlatRecord.Proofs.Record.Resolved
import FlatRecord.Proofs.Value.Whole

namespace FlatRecord

theorem tmod_of_natAbs_lt {a b : Int} (below : a.natAbs < b.natAbs) : a.tmod b = a := by
  have quotient : (a.tdiv b).natAbs = 0 :=
    (Int.natAbs_tdiv a b).trans (Nat.div_eq_of_lt below)
  rw [Int.tmod_def, Int.natAbs_eq_zero.mp quotient, Int.mul_zero, Int.sub_zero]

namespace Value

theorem toInt_saturate_eq_zero_iff {n : Int} : (saturate n).toInt = 0 ↔ n = 0 := by
  rw [toInt_saturate, Int64.toInt_minValue, Int64.toInt_maxValue]
  omega

/-- A divisor beyond the range may be replaced by its nearer end, unless the dividend is the
smallest integer. -/
theorem tmod_saturate {m d : Int} (short : Binary64.Short m.natAbs) (range : InInt64 m)
    (apart : InInt64 d ∨ m ≠ Int64.minValue.toInt) :
    (saturate m).toInt.tmod (saturate d).toInt = m.tmod d := by
  rw [toInt_saturate_of_inInt64 range]
  by_cases inside : InInt64 d
  · rw [toInt_saturate_of_inInt64 inside]
  · have above := apart.resolve_left inside
    have limit : twoTo 63 = 2 ^ 63 := rfl
    rw [Int64.toInt_minValue] at above
    rw [inInt64_iff] at range inside
    have size : m.natAbs < twoTo 63 - 1 := short.lt_of_le (by omega)
    rw [toInt_saturate, Int64.toInt_minValue, Int64.toInt_maxValue, tmod_of_natAbs_lt,
      tmod_of_natAbs_lt]
    all_goals omega

end Value

theorem Binary64.toInt64_of_truncate? {x : Binary64} {m : Int} (whole : x.truncate? = some m) :
    x.toInt64 = Value.saturate m := by
  cases x with
  | finite negative code =>
    rw [toInt64, Value.wholePart?, whole]
    · rfl
    all_goals simp
  | _ => cases whole

namespace ArithmeticOp

section Remainder

variable {v w : Value} {x y : Binary64} {m d : Int} (left : v.toFloat = .ok x)
  (right : w.toFloat = .ok y) (dividend : x.truncate? = some m) (divisor : y.truncate? = some d)
include left right dividend divisor

/-- The remainder is taken of the whole parts, each brought into the range first. -/
theorem apply_mod : mod.apply v w = if d = 0 then .error .moduloByZero else
    .ok (.float (.ofInt ((Value.saturate m).toInt.tmod (Value.saturate d).toInt))) := by
  have numbers : mod.apply v w = (mod.onNumbers x y).map .float := by
    rw [apply, operand, operand, left, right]
    rfl
  rw [numbers, onNumbers, Binary64.toInt64_of_truncate? dividend,
    Binary64.toInt64_of_truncate? divisor]
  simp only [Value.toInt_saturate_eq_zero_iff]
  split <;> rfl

theorem apply_mod_eq_error_iff : mod.apply v w = .error .moduloByZero ↔ d = 0 := by
  rw [apply_mod left right dividend divisor]
  split <;> simp_all

/-- There is always a finite answer for a divisor that is not zero. -/
theorem exists_apply_mod (filled : d ≠ 0) :
    ∃ z, mod.apply v w = .ok (.float z) ∧ z.isFinite = true := by
  refine ⟨_, (apply_mod left right dividend divisor).trans (if_neg filled), ?_⟩
  have limit : twoTo 63 = 2 ^ 63 := rfl
  have low := (Value.saturate m).le_toInt
  have high := (Value.saturate m).toInt_lt
  rw [Binary64.ofInt_eq_finite]
  · rfl
  · rw [Int.natAbs_tmod]
    exact Nat.le_trans (Nat.mod_le _ _) (by omega)

/-- No bit of a remainder is lost, because it has no more of them than the operands. -/
theorem apply_mod_exact (filled : d ≠ 0) (range : InInt64 m)
    (apart : InInt64 d ∨ m ≠ Int64.minValue.toInt) :
    ∃ z, mod.apply v w = .ok (.float z) ∧
      z.signedUnits? = some (m.tmod d * Binary64.unitsPerOne) := by
  have answer := apply_mod left right dividend divisor
  have short := Binary64.short_truncate? dividend
  rw [if_neg filled, Value.tmod_saturate short range apart] at answer
  refine ⟨_, answer, Binary64.signedUnits?_ofInt ?_ ?_⟩
  · rw [Int.natAbs_tmod]
    exact short.mod (Binary64.short_truncate? divisor)
  · have limit : twoTo 63 = 2 ^ 63 := rfl
    rw [inInt64_iff] at range
    rw [Int.natAbs_tmod]
    exact Nat.le_trans (Nat.mod_le _ _) (by omega)

end Remainder

/-- Beyond the range the answer need not be the remainder, here of ten to the nineteenth by ten. -/
theorem apply_mod_beyond_range :
    mod.apply (.float (.ofInt 10000000000000000000)) (.int 10) = .ok (.float (.ofInt 7)) ∧
    ¬∀ (v w : Value) (x y : Binary64) (m d : Int), v.toFloat = .ok x → w.toFloat = .ok y →
      x.truncate? = some m → y.truncate? = some d → d ≠ 0 →
      ∃ (z : Binary64) (k : Int), mod.apply v w = .ok (.float z) ∧
        z.signedUnits? = some (k * Binary64.unitsPerOne) ∧ k.natAbs < d.natAbs ∧
        (k = 0 ∨ k.sign = m.sign) ∧ d ∣ m - k := by
  have dividend : (Binary64.ofInt 10000000000000000000).truncate? = some 10000000000000000000 := by
    decide +kernel
  have divisor : (Binary64.ofInt 10).truncate? = some 10 := by
    decide +kernel
  have units : (Binary64.ofInt 7).signedUnits? = some ((7 : Int) * Binary64.unitsPerOne) := by
    decide +kernel
  have answer : mod.apply (.float (.ofInt 10000000000000000000)) (.int 10) =
      .ok (.float (.ofInt 7)) := by
    rw [apply_mod rfl rfl dividend divisor]
    rfl
  refine ⟨answer, ?_⟩
  intro exact
  obtain ⟨z, k, same, number, below, sign, multiple⟩ :=
    exact (.float _) (.int 10) _ _ _ _ rfl rfl dividend divisor (by decide)
  rw [answer] at same
  rw [← Value.float.inj (Except.ok.inj same), units] at number
  have seven : k = 7 := by
    have one : (Binary64.unitsPerOne : Int) ≠ 0 :=
      Int.natCast_ne_zero.mpr (Nat.ne_of_gt (twoTo_pos 1074))
    exact (Int.eq_of_mul_eq_mul_right one (Option.some.inj number)).symm
  subst seven
  exact absurd multiple (by decide)

end ArithmeticOp

namespace Record

/-- A remainder of two terms with finite readings fails exactly for a divisor whose whole part is
zero, and is finite otherwise. It is the exact remainder of the whole parts, with the sign of the
dividend, if the dividend lies within the 64-bit integers and so does the divisor; the latter is
needed for the smallest dividend only. -/
theorem remainder_of_whole_parts {r : Record} (reached : Reached r) {depth : Nat} {t u : Term}
    {v w : Value} {x y : Binary64} {m d : Int} (left : r.termAt (depth + 1) t = .ok v)
    (right : r.termAt (depth + 1) u = .ok w) (numberLeft : v.toFloat = .ok x)
    (numberRight : w.toFloat = .ok y) (dividend : x.truncate? = some m)
    (divisor : y.truncate? = some d) :
    (r.termAt depth (.arithmetic .mod t u) = .error .moduloByZero ↔ d = 0) ∧
    (d ≠ 0 → ∃ z, r.termAt depth (.arithmetic .mod t u) = .ok (.float z) ∧ z.isFinite = true) ∧
    (d ≠ 0 → InInt64 m → InInt64 d ∨ m ≠ Int64.minValue.toInt →
      ∃ (z : Binary64) (k : Int), r.termAt depth (.arithmetic .mod t u) = .ok (.float z) ∧
        z.signedUnits? = some (k * Binary64.unitsPerOne) ∧ k.natAbs < d.natAbs ∧
        (k = 0 ∨ k.sign = m.sign) ∧ d ∣ m - k) := by
  rw [reached.coherent.toFaithful.termAt_arithmetic left .mod right]
  refine ⟨?zero, ?finite, ?exact⟩
  case zero => exact ArithmeticOp.apply_mod_eq_error_iff numberLeft numberRight dividend divisor
  case finite => exact ArithmeticOp.exists_apply_mod numberLeft numberRight dividend divisor
  case exact =>
    intro filled range apart
    obtain ⟨z, answer, units⟩ := ArithmeticOp.apply_mod_exact numberLeft numberRight dividend
      divisor filled range apart
    refine ⟨z, m.tmod d, answer, units, ?_, ?_, Int.dvd_self_sub_tmod⟩
    · rw [Int.natAbs_tmod]
      exact Nat.mod_lt _ (Int.natAbs_pos.mpr filled)
    · rw [Int.sign_tmod]
      by_cases multiple : d ∣ m
      · exact .inl (Int.tmod_eq_zero_of_dvd multiple)
      · exact .inr (if_neg multiple)

/-- The smallest integer by minus one, a text by a number beyond the range, and a fraction as the
divisor. -/
theorem remainder_of_whole_parts_smallest :
    ∃ (r : Record) (least one text far part : Term), Reached r ∧
      least = .literal (.int Int64.minValue) ∧ one = .literal (.int (-1)) ∧
      text = .literal (.string " -7.9 ") ∧ far = .literal (.string "1e30") ∧
      part = .literal (.string "0.4") ∧
      (∃ z, r.termAt 0 (.arithmetic .mod least one) = .ok (.float z) ∧ z.signedUnits? = some 0) ∧
      (∃ (z : Binary64) (k : Int), r.termAt 0 (.arithmetic .mod text far) = .ok (.float z) ∧
        z.signedUnits? = some (k * Binary64.unitsPerOne) ∧ k.sign ≠ 1 ∧
        1000000000000000019884624838656 ∣ -7 - k) ∧
      r.termAt 0 (.arithmetic .mod least part) = .error .moduloByZero := by
  have start : Reached empty := .empty
  have literal : ∀ v, empty.termAt 1 (.literal v) = .ok v := fun _ => rfl
  have integer : ∀ n : Int64, (Value.int n).toFloat = .ok (.ofInt n.toInt) := fun _ => rfl
  have smallest : (Binary64.ofInt Int64.minValue.toInt).truncate? = some Int64.minValue.toInt :=
    Binary64.truncate?_ofInt ⟨1, 63, by decide, by decide⟩ (by decide)
  have unit : (Binary64.ofInt (-1 : Int64).toInt).truncate? = some (-1) :=
    Binary64.truncate?_ofInt ⟨1, 0, by decide, by decide⟩ (by decide)
  let x : Binary64 := .finite true ⟨4620580627691444634, by decide⟩
  have readText : Numeral.readBinary? (Text.trim " -7.9 ") = some x := by decide +kernel
  have text : (Value.string " -7.9 ").toFloat = .ok x := by rw [Value.toFloat, readText]
  have seven : x.truncate? = some (-7) := by decide +kernel
  let y : Binary64 := .finite false ⟨5055640609639927018, by decide⟩
  have readFar : Numeral.readBinary? (Text.trim "1e30") = some y := by decide +kernel
  have far : (Value.string "1e30").toFloat = .ok y := by rw [Value.toFloat, readFar]
  have large : y.truncate? = some 1000000000000000019884624838656 := by decide +kernel
  let z : Binary64 := .finite false ⟨4600877379321698714, by decide⟩
  have readPart : Numeral.readBinary? (Text.trim "0.4") = some z := by decide +kernel
  have part : (Value.string "0.4").toFloat = .ok z := by rw [Value.toFloat, readPart]
  have below : z.truncate? = some 0 := by decide +kernel
  refine ⟨empty, _, _, _, _, _, start, rfl, rfl, rfl, rfl, rfl, ?_, ?_, ?_⟩
  · obtain ⟨-, -, exact⟩ := remainder_of_whole_parts start (literal _) (literal _) (integer _)
      (integer _) smallest unit
    obtain ⟨z, k, answer, units, small, -, -⟩ := exact (by decide) (by decide) (.inl (by decide))
    have zero : k = 0 := by omega
    exact ⟨z, answer, by rw [units, zero, Int.zero_mul]⟩
  · obtain ⟨-, -, exact⟩ := remainder_of_whole_parts start (literal _) (literal _) text far seven
      large
    obtain ⟨z, k, answer, units, -, sign, multiple⟩ :=
      exact (by decide) (by decide) (.inr (by decide))
    refine ⟨z, k, answer, units, ?_, multiple⟩
    rcases sign with rfl | same
    · decide
    · rw [same]
      decide
  · obtain ⟨zero, -⟩ := remainder_of_whole_parts start (literal _) (literal _) (integer _) part
      smallest below
    exact zero.mpr rfl

end Record

end FlatRecord
