import FlatRecord.Proofs.Binary64.Rounding

namespace FlatRecord

namespace Binary64

/-- How far two numbers lie apart. -/
def gap (m n : Nat) : Nat := ((m : Int) - n).natAbs

/-- No multiple of the denominator is nearer to the numerator. -/
theorem roundHalfEven_nearest (num : Nat) {den : Nat} (pos : 0 < den) (q : Nat) :
    gap (roundHalfEven num den * den) num ≤ gap (q * den) num := by
  have split := Nat.div_add_mod' num den
  have below : num % den < den := Nat.mod_lt num pos
  have next := Nat.add_one_mul (num / den) den
  have apart : q * den ≤ num / den * den ∨ (num / den + 1) * den ≤ q * den := by
    by_cases small : q ≤ num / den
    · exact .inl (Nat.mul_le_mul_right den small)
    · exact .inr (Nat.mul_le_mul_right den (by omega))
  unfold gap roundHalfEven
  simp only
  split <;> omega

/-- The value of a code that may have run over into the next exponent. -/
theorem unitsOf_scaled {width significand exponent : Nat}
    (low : exponent = 0 ∨ twoTo width ≤ significand) (high : significand ≤ twoTo (width + 1)) :
    unitsOf width (exponent * twoTo width + significand) = significand * twoTo exponent := by
  rcases Nat.lt_or_eq_of_le high with inside | rfl
  · by_cases normal : twoTo width ≤ significand
    · exact unitsOf_normal normal inside exponent
    · obtain rfl := low.resolve_right normal
      rw [Nat.zero_mul, Nat.zero_add, unitsOf_of_lt (Nat.lt_of_not_le normal)]
      exact (Nat.mul_one significand).symm
  · have first : twoTo width < twoTo (width + 1) := by
      have pos := twoTo_pos width
      rw [twoTo_succ]
      omega
    have code : exponent * twoTo width + twoTo (width + 1) =
        (exponent + 1) * twoTo width + twoTo width := by
      rw [twoTo_succ, Nat.succ_mul]
      omega
    rw [code, unitsOf_normal (Nat.le_refl _) first, ← twoTo_add, ← twoTo_add, Nat.add_right_comm]
    rfl

/-- The value of the code that a number is rounded to is the nearest multiple of its unit. -/
theorem unitsOf_roundCode (width num : Nat) :
    unitsOf width (roundCode width num 1) =
      roundHalfEven num (twoTo (num.log2 - width)) * twoTo (num.log2 - width) := by
  rw [roundCode_eq, Nat.div_one, Nat.one_mul]
  have pos := twoTo_pos (num.log2 - width)
  apply unitsOf_scaled
  · rcases Nat.eq_zero_or_pos (num.log2 - width) with zero | some
    · exact .inl zero
    · right
      apply le_roundHalfEven pos
      have filled : num ≠ 0 := by
        rintro rfl
        simp at some
      rw [← twoTo_add, Nat.add_sub_cancel' (by omega)]
      exact Nat.log2_self_le filled
  · apply roundHalfEven_le pos
    rw [← twoTo_add]
    exact Nat.le_trans (Nat.le_of_lt (lt_twoTo_log2 num)) (twoTo_le (by omega))

/-- A large value is a multiple of the unit that it is scaled by. -/
theorem exists_unitsOf_eq_mul {width scale code : Nat}
    (large : twoTo (width + scale) ≤ unitsOf width code) :
    ∃ q, unitsOf width code = q * twoTo scale := by
  by_cases normal : twoTo width ≤ code
  · obtain ⟨exponent, significand, low, high, rfl⟩ := exists_normal normal
    rw [unitsOf_normal low high] at large ⊢
    have scaled : scale ≤ exponent := by
      apply Nat.le_of_not_lt
      intro less
      have value : significand * twoTo exponent < twoTo (width + 1) * twoTo exponent :=
        Nat.mul_lt_mul_of_pos_right high (twoTo_pos exponent)
      rw [← twoTo_add] at value
      exact Nat.not_lt.mpr large (Nat.lt_of_lt_of_le value (twoTo_le (by omega)))
    obtain ⟨more, rfl⟩ := Nat.exists_eq_add_of_le' scaled
    exact ⟨significand * twoTo more, by rw [twoTo_add, Nat.mul_assoc]⟩
  · have low : code < twoTo width := Nat.lt_of_not_le normal
    rw [unitsOf_of_lt low] at large
    exact absurd (Nat.lt_of_lt_of_le low (twoTo_le (Nat.le_add_right width scale)))
      (Nat.not_lt.mpr large)

/-- No code has a value nearer to a number than the code that it is rounded to. -/
theorem roundCode_nearest (width num code : Nat) :
    gap (unitsOf width (roundCode width num 1)) num ≤ gap (unitsOf width code) num := by
  rw [unitsOf_roundCode]
  obtain ⟨scale, exponent⟩ : ∃ n, num.log2 - width = n := ⟨_, rfl⟩
  rw [exponent]
  have pos := twoTo_pos scale
  by_cases large : twoTo (width + scale) ≤ unitsOf width code
  · obtain ⟨q, multiple⟩ := exists_unitsOf_eq_mul large
    rw [multiple]
    exact roundHalfEven_nearest num pos q
  · cases scale with
    | zero =>
      have nearest := roundHalfEven_nearest num (twoTo_pos 0) (unitsOf width code)
      rwa [Nat.mul_one (unitsOf width code)] at nearest
    | succ scale =>
      -- The first multiple with a leading bit lies between the value and the number.
      have nearest := roundHalfEven_nearest num pos (twoTo width)
      have filled : num ≠ 0 := by
        rintro rfl
        simp at exponent
      have between : twoTo num.log2 ≤ num := Nat.log2_self_le filled
      rw [show num.log2 = width + (scale + 1) by omega] at between
      rw [← twoTo_add] at nearest
      unfold gap at nearest ⊢
      omega

end Binary64

end FlatRecord
