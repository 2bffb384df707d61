import FlatRecord.Proofs.Binary64.Rounding

namespace FlatRecord

namespace Decimal

open Binary64

/-- The decimal in units of the smallest magnitude is its numerator over its denominator. -/
def numerator (d : Decimal) : Nat := d.coefficient * tenTo d.exponent.toNat * unitsPerOne

def denominator (d : Decimal) : Nat := tenTo (-d.exponent).toNat

theorem denominator_pos (d : Decimal) : 0 < d.denominator := tenTo_pos _

theorem twoTo_le_scaled (low : Nat) {coefficient exponent bits size : Nat} (some : 0 < coefficient)
    (large : low ≤ exponent) (fits : size ≤ 3 * low + bits) :
    twoTo size ≤ coefficient * tenTo exponent * twoTo bits := by
  calc
    twoTo size ≤ twoTo (3 * low + bits) := twoTo_le fits
    _ = twoTo (3 * low) * twoTo bits := twoTo_add _ _
    _ ≤ tenTo exponent * twoTo bits :=
      Nat.mul_le_mul_right _ (Nat.le_trans (twoTo_le_tenTo low) (tenTo_le large))
    _ ≤ coefficient * tenTo exponent * twoTo bits :=
      Nat.mul_le_mul_right _ (Nat.le_mul_of_pos_left _ some)

theorem scaled_lt_tenTo {coefficient bits power : Nat}
    (fits : coefficient.log2 + 1 + (bits + 1) ≤ 3 * power) :
    2 * (coefficient * twoTo bits) < tenTo power := by
  calc
    2 * (coefficient * twoTo bits) = coefficient * twoTo (bits + 1) := by
      rw [twoTo_succ, Nat.mul_comm 2, Nat.mul_assoc]
    _ < twoTo (coefficient.log2 + 1) * twoTo (bits + 1) :=
      Nat.mul_lt_mul_of_pos_right (lt_twoTo_log2 _) (twoTo_pos _)
    _ = twoTo (coefficient.log2 + 1 + (bits + 1)) := (twoTo_add _ _).symm
    _ ≤ twoTo (3 * power) := twoTo_le fits
    _ ≤ tenTo power := twoTo_le_tenTo power

theorem denominator_of_nonneg {d : Decimal} (whole : 0 ≤ d.exponent) : d.denominator = 1 := by
  have : (-d.exponent).toNat = 0 := by omega
  rw [denominator, this]

theorem numerator_of_nonpos {d : Decimal} (small : d.exponent ≤ 0) :
    d.numerator = d.coefficient * unitsPerOne := by
  have : d.exponent.toNat = 0 := by omega
  rw [numerator, this, Nat.mul_one]

/-- Exponents far outside the binary range are settled as the full quotient would be. -/
theorem toBinary_eq (negative : Bool) (d : Decimal) :
    d.toBinary negative = ofUnits negative d.numerator d.denominator := by
  have pos := d.denominator_pos
  by_cases none : d.coefficient = 0
  · have num : d.numerator = 0 := by rw [numerator, none, Nat.zero_mul, Nat.zero_mul]
    rw [toBinary, if_pos none, num, ofUnits_small negative (by omega)]
  by_cases large : 400 ≤ d.exponent
  · have size : twoTo (fractionBits + 2047) ≤ d.numerator :=
      twoTo_le_scaled 400 (Nat.pos_of_ne_zero none) (by omega) (by decide)
    rw [toBinary, if_neg none, if_pos large, denominator_of_nonneg (by omega), ofUnits_large]
    rwa [Nat.div_one]
  by_cases small : d.exponent + d.coefficient.log2 + 401 ≤ 0
  · have size : 2 * (d.coefficient * unitsPerOne) < d.denominator := scaled_lt_tenTo (by omega)
    rw [← numerator_of_nonpos (by omega)] at size
    rw [toBinary, if_neg none, if_neg large, if_pos small, ofUnits_small negative size]
  by_cases whole : 0 ≤ d.exponent
  · rw [toBinary, if_neg none, if_neg large, if_neg small, if_pos whole,
      denominator_of_nonneg whole, numerator, ofNat]
  · rw [toBinary, if_neg none, if_neg large, if_neg small, if_neg whole,
      numerator_of_nonpos (by omega), denominator]

/-- Two ways to write a number are read alike. -/
theorem toBinary_congr (negative : Bool) {d e : Decimal}
    (same : d.coefficient * tenTo d.exponent.toNat * tenTo (-e.exponent).toNat =
      e.coefficient * tenTo e.exponent.toNat * tenTo (-d.exponent).toNat) :
    d.toBinary negative = e.toBinary negative := by
  rw [toBinary_eq, toBinary_eq]
  apply ofUnits_congr d.denominator_pos e.denominator_pos
  unfold numerator denominator
  rw [Nat.mul_right_comm, same, Nat.mul_right_comm]

theorem toBinary_shift (negative : Bool) (coefficient : Nat) (exponent : Int) (zeros : Nat) :
    toBinary negative ⟨coefficient * tenTo zeros, exponent⟩ =
      toBinary negative ⟨coefficient, exponent + zeros⟩ := by
  apply toBinary_congr
  have powers : zeros + exponent.toNat + (-(exponent + zeros)).toNat =
      (exponent + zeros).toNat + (-exponent).toNat := by omega
  simp only [Nat.mul_assoc, ← tenTo_add]
  rw [powers]

theorem fiveTo_mul_twoTo (units n : Nat) : units * Nat.pow 5 n * twoTo n = units * tenTo n := by
  have ten : Nat.pow 5 n * twoTo n = tenTo n := (Nat.mul_pow 5 2 n).symm
  rw [Nat.mul_assoc, ten]

theorem toBinary_exact (negative : Bool) (code : Fin magnitudes) :
    (exact code).toBinary negative = .finite negative code := by
  have nonpos : (exact code).exponent ≤ 0 := by
    change (-1074 : Int) ≤ 0
    decide
  have power : (-(exact code).exponent).toNat = 1074 := rfl
  have num : (exact code).numerator = units code * (exact code).denominator := by
    rw [numerator_of_nonpos nonpos, denominator, power, exact, unitsPerOne]
    generalize 1074 = places
    exact fiveTo_mul_twoTo (units code) places
  rw [toBinary_eq, ← ofUnits_units]
  apply ofUnits_congr (denominator_pos _) Nat.one_pos
  rw [num, Nat.mul_one]

theorem toBinary_stripZeros (negative : Bool) (fuel : Nat) (d : Decimal) :
    (stripZeros fuel d).toBinary negative = d.toBinary negative := by
  induction fuel generalizing d with
  | zero => rfl
  | succ fuel ih =>
    rw [stripZeros]
    split
    next trailing =>
      rw [ih]
      have shifted := toBinary_shift negative (d.coefficient / 10) d.exponent 1
      have whole : d.coefficient / 10 * 10 = d.coefficient := by omega
      change toBinary negative ⟨d.coefficient / 10 * 10, d.exponent⟩ = _ at shifted
      rw [whole] at shifted
      exact shifted.symm
    next => rfl

theorem toBinary_of_readsBack {code : Fin magnitudes} {d : Decimal}
    (h : readsBack code d = true) (negative : Bool) :
    d.toBinary negative = .finite negative code := by
  have read : d.toBinary false = .finite false code := by simpa [readsBack] using h
  rw [toBinary_eq] at read ⊢
  exact ofUnits_eq_finite_iff.mpr ⟨rfl, (ofUnits_eq_finite_iff.mp read).2⟩

theorem readsBack_of_choose? {reads : Decimal → Bool} {tie : Tie} {low high d : Decimal}
    {rest grid : Nat} (h : choose? tie low high rest grid (reads low) (reads high) = some d) :
    reads d = true := by
  cases lowReads : reads low with
  | false =>
    cases highReads : reads high with
    | false => simp [choose?, lowReads, highReads] at h
    | true =>
      have eq : high = d := by simpa [choose?, lowReads, highReads] using h
      rwa [← eq]
  | true =>
    cases highReads : reads high with
    | false =>
      have eq : low = d := by simpa [choose?, lowReads, highReads] using h
      rwa [← eq]
    | true =>
      have either : d = low ∨ d = high := by
        simp only [choose?, lowReads, highReads] at h
        grind
      rcases either with rfl | rfl
      · exact lowReads
      · exact highReads

theorem readsBack_of_onGrid? {tie : Tie} {code : Fin magnitudes} {cut : Nat} {d : Decimal}
    (h : onGrid? tie code cut = some d) : readsBack code d = true := by
  unfold onGrid? at h
  exact readsBack_of_choose? h

theorem toBinary_search (negative : Bool) (tie : Tie) (code : Fin magnitudes) (cuts cut : Nat) :
    (search tie code cuts cut).toBinary negative = .finite negative code := by
  induction cuts generalizing cut with
  | zero => exact toBinary_exact negative code
  | succ cuts ih =>
    rw [search]
    cases found : onGrid? tie code cut with
    | some d => exact toBinary_of_readsBack (readsBack_of_onGrid? found) negative
    | none => exact ih (cut - 1)

/-- The fewest digits that stand for a number are read as this number. -/
theorem toBinary_shortest (negative : Bool) (tie : Tie) (code : Fin magnitudes) :
    (shortest tie code).toBinary negative = .finite negative code := by
  unfold shortest
  split
  next none =>
    have first : code = ⟨0, by decide⟩ := Fin.ext none
    rw [first]
    rfl
  next => rw [toBinary_stripZeros, toBinary_search]

end Decimal

end FlatRecord
