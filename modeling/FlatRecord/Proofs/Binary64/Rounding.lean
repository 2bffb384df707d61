import FlatRecord.Decimal.Shortest

namespace FlatRecord

theorem twoTo_pos (n : Nat) : 0 < twoTo n := Nat.pow_pos (by decide)

theorem tenTo_pos (n : Nat) : 0 < tenTo n := Nat.pow_pos (by decide)

theorem twoTo_succ (n : Nat) : twoTo (n + 1) = twoTo n * 2 := rfl

theorem twoTo_add (m n : Nat) : twoTo (m + n) = twoTo m * twoTo n := Nat.pow_add 2 m n

theorem tenTo_add (m n : Nat) : tenTo (m + n) = tenTo m * tenTo n := Nat.pow_add 10 m n

theorem twoTo_le {m n : Nat} (h : m ≤ n) : twoTo m ≤ twoTo n := Nat.pow_le_pow_right (by decide) h

theorem tenTo_le {m n : Nat} (h : m ≤ n) : tenTo m ≤ tenTo n := Nat.pow_le_pow_right (by decide) h

theorem twoTo_le_tenTo (n : Nat) : twoTo (3 * n) ≤ tenTo n := by
  have eight : twoTo (3 * n) = Nat.pow 8 n := Nat.pow_mul 2 3 n
  rw [eight]
  exact Nat.pow_le_pow_left (by decide) n

theorem log2_eq {n k : Nat} (low : twoTo k ≤ n) (high : n < twoTo (k + 1)) : n.log2 = k := by
  have pos := twoTo_pos k
  exact (Nat.log2_eq_iff (by omega)).mpr ⟨low, high⟩

theorem le_log2 {n k : Nat} (low : twoTo k ≤ n) : k ≤ n.log2 := by
  have pos := twoTo_pos k
  exact (Nat.le_log2 (by omega)).mpr low

theorem lt_twoTo_log2 (n : Nat) : n < twoTo (n.log2 + 1) := Nat.lt_log2_self

theorem log2_le {n k : Nat} (high : n < twoTo (k + 1)) : n.log2 ≤ k := by
  by_cases zero : n = 0
  · simp [zero]
  · exact Nat.le_of_lt_succ ((Nat.log2_lt zero).mpr high)

theorem log2_mono {m n : Nat} (le : m ≤ n) : m.log2 ≤ n.log2 :=
  log2_le (Nat.lt_of_le_of_lt le (lt_twoTo_log2 n))

namespace Binary64

theorem roundHalfEven_mul (num den : Nat) {k : Nat} (pos : 0 < k) :
    roundHalfEven (num * k) (den * k) = roundHalfEven num den := by
  have quotient : num * k / (den * k) = num / den := Nat.mul_div_mul_right num den pos
  have rest : 2 * (num * k % (den * k)) = 2 * (num % den) * k := by
    rw [Nat.mul_mod_mul_right, Nat.mul_assoc]
  have above : den * k < 2 * (num % den) * k ↔ den < 2 * (num % den) := Nat.mul_lt_mul_right pos
  have tie : 2 * (num % den) * k = den * k ↔ 2 * (num % den) = den := Nat.mul_left_inj (by omega)
  unfold roundHalfEven
  simp only [quotient, rest, above, tie]

theorem roundHalfEven_exact (q : Nat) {den : Nat} (pos : 0 < den) :
    roundHalfEven (q * den) den = q := by
  have quotient : q * den / den = q := Nat.mul_div_cancel q pos
  have rest : q * den % den = 0 := Nat.mul_mod_left q den
  unfold roundHalfEven
  simp only [quotient, rest]
  rw [if_neg (by omega)]

theorem roundHalfEven_mono {num num' : Nat} (den : Nat) (le : num ≤ num') :
    roundHalfEven num den ≤ roundHalfEven num' den := by
  have quotient : num / den ≤ num' / den := Nat.div_le_div_right le
  have split := Nat.div_add_mod num den
  have split' := Nat.div_add_mod num' den
  unfold roundHalfEven
  simp only
  rcases Nat.lt_or_eq_of_le quotient with lower | same
  · split <;> split <;> omega
  · -- Between the same whole numbers a remainder rounds up if a smaller one does.
    rw [same] at split ⊢
    have rest : num % den ≤ num' % den := by omega
    split <;> split <;> omega

theorem roundHalfEven_le {q num den : Nat} (pos : 0 < den) (le : num ≤ q * den) :
    roundHalfEven num den ≤ q := by
  have rounded := roundHalfEven_mono den le
  rwa [roundHalfEven_exact q pos] at rounded

theorem le_roundHalfEven {q num den : Nat} (pos : 0 < den) (le : q * den ≤ num) :
    q ≤ roundHalfEven num den := by
  have rounded := roundHalfEven_mono den le
  rwa [roundHalfEven_exact q pos] at rounded

theorem roundHalfEven_small {num den : Nat} (small : 2 * num < den) : roundHalfEven num den = 0 := by
  have quotient : num / den = 0 := Nat.div_eq_of_lt (by omega)
  have rest : num % den = num := Nat.mod_eq_of_lt (by omega)
  unfold roundHalfEven
  simp only [quotient, rest]
  rw [if_neg (by omega)]

theorem roundCode_eq (width num den : Nat) :
    roundCode width num den = (Nat.log2 (num / den) - width) * twoTo width +
      roundHalfEven num (den * twoTo (Nat.log2 (num / den) - width)) := rfl

/-- Rounding depends on the quotient only. -/
theorem roundCode_mul (width num den : Nat) {k : Nat} (pos : 0 < k) :
    roundCode width (num * k) (den * k) = roundCode width num den := by
  have quotient : num * k / (den * k) = num / den := Nat.mul_div_mul_right num den pos
  rw [roundCode_eq, roundCode_eq, quotient, Nat.mul_right_comm den k, roundHalfEven_mul num _ pos]

theorem roundCode_small (width : Nat) {num den : Nat} (small : 2 * num < den) :
    roundCode width num den = 0 := by
  have quotient : num / den = 0 := Nat.div_eq_of_lt (by omega)
  have scale : Nat.log2 0 - width = 0 := by simp
  have unit : den * twoTo 0 = den := Nat.mul_one den
  rw [roundCode_eq, quotient, scale, unit, roundHalfEven_small small]
  omega

/-- A quotient of at least `2 ^ (width + scale)` rounds to a code of at least that exponent. -/
theorem le_roundCode {width num den scale : Nat} (large : twoTo (width + scale) ≤ num / den) :
    (scale + 1) * twoTo width ≤ roundCode width num den := by
  have some : num / den ≠ 0 := Nat.ne_of_gt (Nat.lt_of_lt_of_le (twoTo_pos _) large)
  have exponent := le_log2 large
  obtain ⟨own, size⟩ : ∃ n, Nat.log2 (num / den) = width + n :=
    Nat.exists_eq_add_of_le (by omega)
  have fraction : twoTo width ≤ roundHalfEven num (den * twoTo own) := by
    have pos : 0 < den := Nat.pos_of_ne_zero fun zero => some (by rw [zero, Nat.div_zero])
    apply le_roundHalfEven (Nat.mul_pos pos (twoTo_pos own))
    rw [Nat.mul_left_comm, ← twoTo_add, ← size, Nat.mul_comm]
    exact (Nat.le_div_iff_mul_le pos).mp (Nat.log2_self_le some)
  have scaled : scale * twoTo width ≤ own * twoTo width := Nat.mul_le_mul_right _ (by omega)
  rw [roundCode_eq, size, Nat.add_sub_cancel_left, Nat.succ_mul]
  exact Nat.add_le_add scaled fraction

/-- A quotient below the next power of two rounds to a code of at most that power. -/
theorem roundCode_le {width num den scale : Nat} (pos : 0 < den)
    (small : num / den < twoTo (width + scale + 1)) :
    roundCode width num den ≤ (scale + 2) * twoTo width := by
  obtain ⟨own, exponent⟩ : ∃ n, Nat.log2 (num / den) - width = n := ⟨_, rfl⟩
  have fraction : roundHalfEven num (den * twoTo own) ≤ 2 * twoTo width := by
    apply roundHalfEven_le (Nat.mul_pos pos (twoTo_pos own))
    have size : num / den < twoTo (width + own + 1) :=
      Nat.lt_of_lt_of_le (lt_twoTo_log2 _) (twoTo_le (by omega))
    rw [Nat.mul_left_comm, Nat.mul_assoc, ← twoTo_add, Nat.mul_comm 2, ← twoTo_succ, Nat.mul_comm]
    exact Nat.le_of_lt ((Nat.div_lt_iff_lt_mul pos).mp size)
  have scaled : own * twoTo width ≤ scale * twoTo width := by
    have size := log2_le small
    exact Nat.mul_le_mul_right _ (by omega)
  rw [roundCode_eq, exponent, Nat.add_mul]
  exact Nat.add_le_add scaled fraction

/-- A larger quotient rounds to no smaller a code. -/
theorem roundCode_mono (width : Nat) {num num' den : Nat} (pos : 0 < den) (le : num ≤ num') :
    roundCode width num den ≤ roundCode width num' den := by
  have quotient : num / den ≤ num' / den := Nat.div_le_div_right le
  obtain ⟨scale, exponent⟩ : ∃ n, Nat.log2 (num / den) - width = n := ⟨_, rfl⟩
  have small : num / den < twoTo (width + scale + 1) :=
    Nat.lt_of_lt_of_le (lt_twoTo_log2 _) (twoTo_le (by omega))
  by_cases large : twoTo (width + scale + 1) ≤ num' / den
  · exact Nat.le_trans (roundCode_le pos small) (le_roundCode large)
  · have exponent' : Nat.log2 (num' / den) - width = scale := by
      have lower := log2_mono quotient
      have upper := log2_le (Nat.lt_of_not_le large)
      omega
    rw [roundCode_eq, roundCode_eq, exponent, exponent']
    exact Nat.add_le_add_left (roundHalfEven_mono _ le) _

theorem unitsOf_of_lt {width code : Nat} (low : code < twoTo width) :
    unitsOf width code = code := by
  have unshifted : shift width code = 0 := by
    rw [shift, Nat.div_eq_of_lt low]
  rw [unitsOf, mantissa, if_pos low, unshifted]
  exact Nat.mul_one code

/-- A significand with its leading bit in place is scaled by the exponent of the code. -/
theorem unitsOf_normal {width significand : Nat} (low : twoTo width ≤ significand)
    (high : significand < twoTo (width + 1)) (exponent : Nat) :
    unitsOf width (exponent * twoTo width + significand) = significand * twoTo exponent := by
  have pos := twoTo_pos width
  rw [twoTo_succ] at high
  obtain ⟨fraction, rfl⟩ := Nat.exists_eq_add_of_le low
  have fields : exponent * twoTo width + (twoTo width + fraction) =
      fraction + (exponent + 1) * twoTo width := by
    rw [Nat.succ_mul]
    omega
  have below : fraction < twoTo width := by omega
  have first : ¬fraction + (exponent + 1) * twoTo width < twoTo width := by
    rw [Nat.succ_mul]
    omega
  rw [fields, unitsOf, mantissa, if_neg first, shift, Nat.add_mul_mod_self_right,
    Nat.add_mul_div_right _ _ pos, Nat.mod_eq_of_lt below, Nat.div_eq_of_lt below, Nat.zero_add,
    Nat.add_sub_cancel]

/-- A code with a leading bit has an exponent and a significand. -/
theorem exists_normal {width code : Nat} (normal : twoTo width ≤ code) :
    ∃ exponent significand, twoTo width ≤ significand ∧ significand < twoTo (width + 1) ∧
      code = exponent * twoTo width + significand := by
  have pos := twoTo_pos width
  have fraction : code % twoTo width < twoTo width := Nat.mod_lt code pos
  have split := Nat.div_add_mod' code (twoTo width)
  obtain ⟨exponent, field⟩ : ∃ n, code / twoTo width = n + 1 :=
    Nat.exists_eq_add_one.mpr (Nat.div_pos normal pos)
  rw [field, Nat.add_one_mul] at split
  refine ⟨exponent, twoTo width + code % twoTo width, by omega, ?_, by omega⟩
  rw [twoTo_succ]
  omega

theorem roundCode_normal {width significand : Nat} (low : twoTo width ≤ significand)
    (high : significand < twoTo (width + 1)) (exponent : Nat) :
    roundCode width (significand * twoTo exponent) 1 = exponent * twoTo width + significand := by
  have size : (significand * twoTo exponent).log2 = width + exponent := by
    apply log2_eq
    · rw [twoTo_add]
      exact Nat.mul_le_mul_right _ low
    · rw [Nat.add_right_comm, twoTo_add]
      exact Nat.mul_lt_mul_of_pos_right high (twoTo_pos exponent)
  rw [roundCode_eq, Nat.div_one, Nat.one_mul, size, Nat.add_sub_cancel_left,
    roundHalfEven_exact _ (twoTo_pos exponent)]

theorem roundCode_of_lt {width num : Nat} (low : num < twoTo (width + 1)) :
    roundCode width num 1 = num := by
  have scale : num.log2 - width = 0 := Nat.sub_eq_zero_of_le (log2_le low)
  have exact := roundHalfEven_exact num (twoTo_pos 0)
  rw [Nat.mul_one] at exact
  rw [roundCode_eq, Nat.div_one, Nat.one_mul, scale, Nat.zero_mul, Nat.zero_add, exact]

/-- A code is what its own value rounds to. -/
theorem roundCode_unitsOf (width code : Nat) : roundCode width (unitsOf width code) 1 = code := by
  by_cases normal : twoTo width ≤ code
  · obtain ⟨exponent, significand, low, high, rfl⟩ := exists_normal normal
    rw [unitsOf_normal low high, roundCode_normal low high]
  · have low : code < twoTo width := Nat.lt_of_not_le normal
    rw [unitsOf_of_lt low, roundCode_of_lt (Nat.lt_of_lt_of_le low (twoTo_le (Nat.le_succ width)))]

theorem ofUnits_eq (negative : Bool) (num den : Nat) :
    ofUnits negative num den =
      if h : roundCode fractionBits num den < magnitudes then
        .finite negative ⟨roundCode fractionBits num den, h⟩
      else .infinite negative := rfl

theorem ofUnits_eq_finite_iff {negative sign : Bool} {num den : Nat} {code : Fin magnitudes} :
    ofUnits negative num den = .finite sign code ↔
      negative = sign ∧ roundCode fractionBits num den = code.val := by
  rw [ofUnits_eq]
  constructor
  · intro h
    split at h
    · cases h
      exact ⟨rfl, rfl⟩
    · cases h
  · rintro ⟨rfl, eq⟩
    simp only [eq]
    rw [dif_pos code.isLt]

theorem ofUnits_congr {negative : Bool} {num den num' den' : Nat} (pos : 0 < den) (pos' : 0 < den')
    (same : num * den' = num' * den) : ofUnits negative num den = ofUnits negative num' den' := by
  have code : roundCode fractionBits num den = roundCode fractionBits num' den' := by
    rw [← roundCode_mul fractionBits num den pos', ← roundCode_mul fractionBits num' den' pos, same,
      Nat.mul_comm den den']
  simp only [ofUnits_eq, code]

theorem ofUnits_units (negative : Bool) (code : Fin magnitudes) :
    ofUnits negative (units code) 1 = .finite negative code :=
  ofUnits_eq_finite_iff.mpr ⟨rfl, roundCode_unitsOf fractionBits code.val⟩

theorem ofUnits_small (negative : Bool) {num den : Nat} (small : 2 * num < den) :
    ofUnits negative num den = zero negative :=
  ofUnits_eq_finite_iff.mpr ⟨rfl, roundCode_small fractionBits small⟩

theorem ofUnits_large (negative : Bool) {num den : Nat}
    (large : twoTo (fractionBits + 2047) ≤ num / den) :
    ofUnits negative num den = .infinite negative := by
  have code := le_roundCode large
  have limit : magnitudes = 2047 * twoTo fractionBits := rfl
  rw [ofUnits_eq, dif_neg (by omega)]

end Binary64

end FlatRecord
