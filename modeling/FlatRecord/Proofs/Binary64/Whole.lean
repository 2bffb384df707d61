import FlatRecord.Proofs.Binary64.Integers

namespace FlatRecord

namespace Binary64

theorem mantissa_lt (code : Nat) : mantissa fractionBits code < twoTo 53 := by
  unfold mantissa
  split
  next low => exact Nat.lt_of_lt_of_le low (twoTo_le (by decide))
  next =>
    have fraction : code % twoTo fractionBits < twoTo fractionBits :=
      Nat.mod_lt code (twoTo_pos fractionBits)
    rw [show twoTo 53 = twoTo fractionBits * 2 from twoTo_succ 52]
    omega

/-- The whole part of a magnitude keeps the leading bits of its significand. -/
theorem short_units_div (code : Fin magnitudes) : Short (units code / unitsPerOne) := by
  have size := mantissa_lt code.val
  rw [units, unitsOf]
  rcases Nat.le_total 1074 (shift fractionBits code.val) with large | small
  · obtain ⟨scale, exponent⟩ := Nat.exists_eq_add_of_le' large
    refine ⟨_, scale, size, ?_⟩
    rw [exponent, twoTo_add, ← Nat.mul_assoc, Nat.mul_div_cancel _ (twoTo_pos 1074)]
  · obtain ⟨cut, exponent⟩ := Nat.exists_eq_add_of_le' small
    have one : unitsPerOne = twoTo cut * twoTo (shift fractionBits code.val) := by
      rw [← twoTo_add, ← exponent]
    refine ⟨mantissa fractionBits code.val / twoTo cut, 0, ?_, ?_⟩
    · exact Nat.lt_of_le_of_lt (Nat.div_le_self _ _) size
    · rw [one, Nat.mul_div_mul_right _ _ (twoTo_pos _)]
      exact (Nat.mul_one _).symm

theorem short_truncate? {x : Binary64} {n : Int} (whole : x.truncate? = some n) :
    Short n.natAbs := by
  cases x with
  | finite negative code =>
    rw [truncate?, signedUnits?, Option.map_some, Option.some.injEq] at whole
    have size : (withSign negative (units code)).natAbs = units code := by
      cases negative <;> simp [withSign]
    rw [← whole, Int.natAbs_tdiv, size, Int.natAbs_natCast]
    exact short_units_div code
  | _ => cases whole

/-- A remainder has no more bits than the operand with the lower unit. -/
theorem Short.mod {m n : Nat} (left : Short m) (right : Short n) : Short (m % n) := by
  obtain ⟨bits, scale, few, rfl⟩ := left
  obtain ⟨bits', scale', few', rfl⟩ := right
  rcases Nat.le_total scale' scale with finer | coarser
  · obtain ⟨more, rfl⟩ := Nat.exists_eq_add_of_le' finer
    by_cases zero : bits' = 0
    · exact ⟨bits, more + scale', few, by rw [zero, Nat.zero_mul, Nat.mod_zero]⟩
    · refine ⟨bits * twoTo more % bits', scale', ?_, ?_⟩
      · exact Nat.lt_trans (Nat.mod_lt _ (Nat.pos_of_ne_zero zero)) few'
      · rw [twoTo_add, ← Nat.mul_assoc, Nat.mul_mod_mul_right]
  · obtain ⟨more, rfl⟩ := Nat.exists_eq_add_of_le' coarser
    refine ⟨bits % (bits' * twoTo more), scale, ?_, ?_⟩
    · exact Nat.lt_of_le_of_lt (Nat.mod_le _ _) few
    · rw [twoTo_add, ← Nat.mul_assoc, Nat.mul_mod_mul_right]

/-- The largest 64-bit integer has too many bits. -/
theorem Short.lt_of_le {n : Nat} (short : Short n) (range : n ≤ twoTo 63 - 1) :
    n < twoTo 63 - 1 := by
  obtain ⟨bits, scale, few, rfl⟩ := short
  have limits : twoTo 53 < twoTo 63 - 1 ∧ twoTo 63 % 2 = 0 := by decide
  cases scale with
  | zero =>
    have unscaled : bits * twoTo 0 = bits := Nat.mul_one bits
    omega
  | succ scale =>
    have even : bits * twoTo (scale + 1) = bits * twoTo scale * 2 := by
      rw [twoTo_succ, Nat.mul_assoc]
    omega

theorem signedUnits?_ofInt {n : Int} (short : Short n.natAbs) (range : n.natAbs ≤ twoTo 63) :
    (ofInt n).signedUnits? = some (n * unitsPerOne) := by
  rw [ofInt_eq_finite range, signedUnits?, units, short.unitsOf_codeOfNat]
  by_cases neg : n < 0
  · have size : (n.natAbs : Int) = -n := Int.ofNat_natAbs_of_nonpos (Int.le_of_lt neg)
    rw [decide_eq_true neg, withSign, if_pos rfl, Int.natCast_mul, size, Int.neg_mul, Int.neg_neg]
  · have size : (n.natAbs : Int) = n := Int.natAbs_of_nonneg (Int.not_lt.mp neg)
    rw [decide_eq_false neg, withSign, if_neg Bool.false_ne_true, Int.natCast_mul, size]

/-- A whole number that a float holds exactly is its own whole part. -/
theorem truncate?_ofInt {n : Int} (short : Short n.natAbs) (range : n.natAbs ≤ twoTo 63) :
    (ofInt n).truncate? = some n := by
  have one : (unitsPerOne : Int) ≠ 0 := Int.natCast_ne_zero.mpr (Nat.ne_of_gt (twoTo_pos 1074))
  rw [truncate?, signedUnits?_ofInt short range, Option.map_some, Int.mul_tdiv_cancel _ one]

end Binary64

end FlatRecord
