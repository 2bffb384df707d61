import FlatRecord.Proofs.Binary64.Nearest

namespace FlatRecord

namespace Binary64

/-- A whole number of no more bits than a significand has is the value of a code. -/
theorem exists_unitsOf {width n scale : Nat} (small : n < twoTo (width + 1))
    (scaled : width ≤ scale) : ∃ code, unitsOf width code = n * twoTo scale := by
  by_cases zero : n = 0
  · exact ⟨0, by rw [unitsOf_of_lt (twoTo_pos width), zero, Nat.zero_mul]⟩
  · obtain ⟨blanks, length⟩ := Nat.exists_eq_add_of_le' (log2_le small)
    obtain ⟨exponent, rfl⟩ := Nat.exists_eq_add_of_le' (show blanks ≤ scale by omega)
    refine ⟨exponent * twoTo width + n * twoTo blanks, ?_⟩
    have low : twoTo width ≤ n * twoTo blanks := by
      rw [length, Nat.add_comm, twoTo_add]
      exact Nat.mul_le_mul_right _ (Nat.log2_self_le zero)
    have high : n * twoTo blanks < twoTo (width + 1) := by
      rw [length, Nat.add_assoc, Nat.add_comm, twoTo_add]
      exact Nat.mul_lt_mul_of_pos_right (lt_twoTo_log2 n) (twoTo_pos blanks)
    rw [unitsOf_normal low high, Nat.mul_assoc, ← twoTo_add, Nat.add_comm blanks]

/-- The code nearest to a natural number, also where it is beyond the finite ones. -/
def codeOfNat (n : Nat) : Nat := roundCode fractionBits (n * unitsPerOne) 1

theorem codeOfNat_mono {m n : Nat} (le : m ≤ n) : codeOfNat m ≤ codeOfNat n :=
  roundCode_mono fractionBits Nat.one_pos (Nat.mul_le_mul_right unitsPerOne le)

/-- At most 53 bits and any number of zeros after them. -/
def Short (n : Nat) : Prop := ∃ bits scale, bits < twoTo 53 ∧ n = bits * twoTo scale

theorem short_of_le {n : Nat} (small : n ≤ twoTo 53) : Short n := by
  rcases Nat.lt_or_eq_of_le small with below | rfl
  · exact ⟨n, 0, below, (Nat.mul_one n).symm⟩
  · exact ⟨1, 53, by decide, (Nat.one_mul _).symm⟩

theorem Short.unitsOf_codeOfNat {n : Nat} (short : Short n) :
    unitsOf fractionBits (codeOfNat n) = n * unitsPerOne := by
  obtain ⟨bits, scale, few, rfl⟩ := short
  have scaled : fractionBits ≤ scale + 1074 := Nat.le_trans (by decide) (Nat.le_add_left 1074 scale)
  obtain ⟨code, exact⟩ : ∃ code, unitsOf fractionBits code = bits * twoTo (scale + 1074) :=
    exists_unitsOf few scaled
  rw [twoTo_add, ← Nat.mul_assoc] at exact
  rw [codeOfNat, ← exact, roundCode_unitsOf]

/-- No other number is rounded to a number of at most 53 bits. -/
theorem codeOfNat_lt_codeOfNat {m n : Nat} (small : m < twoTo 53) (lt : m < n) :
    codeOfNat m < codeOfNat n := by
  have next : codeOfNat m ≠ codeOfNat (m + 1) := by
    intro same
    have units := (short_of_le (Nat.le_of_lt small)).unitsOf_codeOfNat
    rw [same, (short_of_le small).unitsOf_codeOfNat] at units
    have := Nat.eq_of_mul_eq_mul_right (twoTo_pos 1074) units
    omega
  exact Nat.lt_of_lt_of_le (Nat.lt_of_le_of_ne (codeOfNat_mono (Nat.le_succ m)) next)
    (codeOfNat_mono lt)

theorem codeOfNat_lt {n : Nat} (small : n ≤ twoTo 63) : codeOfNat n < magnitudes := by
  have code : codeOfNat n ≤ codeOfNat (twoTo 63) := codeOfNat_mono small
  have limit : codeOfNat (twoTo 63) < magnitudes := by decide +kernel
  exact Nat.lt_of_le_of_lt code limit

/-- The rank of the number nearest to an integer. -/
def rankOfInt (n : Int) : Int := withSign (n < 0) (codeOfNat n.natAbs)

theorem rankOfInt_of_neg {n : Int} (neg : n < 0) : rankOfInt n = -codeOfNat n.natAbs := by
  rw [rankOfInt, decide_eq_true neg, withSign, if_pos rfl]

theorem rankOfInt_of_nonneg {n : Int} (nonneg : 0 ≤ n) : rankOfInt n = codeOfNat n.natAbs := by
  rw [rankOfInt, decide_eq_false (Int.not_lt.mpr nonneg), withSign, if_neg Bool.false_ne_true]

theorem codeOfNat_pos {n : Nat} (pos : 0 < n) : 0 < codeOfNat n :=
  Nat.lt_of_le_of_lt (Nat.zero_le _) (codeOfNat_lt_codeOfNat (twoTo_pos 53) pos)

theorem rankOfInt_neg_iff {n : Int} : rankOfInt n < 0 ↔ n < 0 := by
  by_cases neg : n < 0
  · have code := codeOfNat_pos (Int.natAbs_pos.mpr (Int.ne_of_lt neg))
    rw [rankOfInt_of_neg neg]
    omega
  · rw [rankOfInt_of_nonneg (Int.not_lt.mp neg)]
    omega

theorem rankOfInt_mono {a b : Int} (le : a ≤ b) : rankOfInt a ≤ rankOfInt b := by
  by_cases negA : a < 0
  · by_cases negB : b < 0
    · have code := codeOfNat_mono (show b.natAbs ≤ a.natAbs by omega)
      rw [rankOfInt_of_neg negA, rankOfInt_of_neg negB]
      omega
    · have below := rankOfInt_neg_iff.mpr negA
      have above := mt rankOfInt_neg_iff.mp negB
      omega
  · have code := codeOfNat_mono (show a.natAbs ≤ b.natAbs by omega)
    rw [rankOfInt_of_nonneg (by omega), rankOfInt_of_nonneg (by omega)]
    exact Int.ofNat_le.mpr code

theorem rankOfInt_eq_iff {a b : Int} :
    rankOfInt a = rankOfInt b ↔ (a < 0 ↔ b < 0) ∧ codeOfNat a.natAbs = codeOfNat b.natAbs := by
  by_cases sign : a < 0 ↔ b < 0
  · by_cases neg : a < 0
    · rw [rankOfInt_of_neg neg, rankOfInt_of_neg (sign.mp neg)]
      omega
    · rw [rankOfInt_of_nonneg (by omega), rankOfInt_of_nonneg (by omega)]
      omega
  · have differ : rankOfInt a ≠ rankOfInt b := by
      intro same
      rw [← rankOfInt_neg_iff, same, rankOfInt_neg_iff] at sign
      exact sign Iff.rfl
    exact ⟨fun same => absurd same differ, fun same => absurd same.1 sign⟩

/-- The rank of an integer of at most 53 bits is that of no other. -/
theorem eq_of_rankOfInt_eq {a b : Int} (small : a.natAbs < twoTo 53)
    (same : rankOfInt a = rankOfInt b) : a = b := by
  obtain ⟨sign, code⟩ := rankOfInt_eq_iff.mp same
  have size : a.natAbs = b.natAbs := by
    rcases Nat.lt_trichotomy a.natAbs b.natAbs with lt | eq | gt
    · exact absurd code (Nat.ne_of_lt (codeOfNat_lt_codeOfNat small lt))
    · exact eq
    · exact absurd code (Nat.ne_of_gt (codeOfNat_lt_codeOfNat (Nat.lt_trans gt small) gt))
  omega

theorem compare?_of_rank? {x y : Binary64} {m n : Int} (left : x.rank? = some m)
    (right : y.rank? = some n) :
    x.compare? y = some (if m < n then .lt else if m = n then .eq else .gt) := by
  rw [compare?, left, right]

/-- The number is finite, and no finite number is nearer to the integer. -/
def IsNearest (x : Binary64) (n : Int) : Prop :=
  ∃ u, x.signedUnits? = some u ∧ ∀ y v, signedUnits? y = some v →
    (u - n * unitsPerOne).natAbs ≤ (v - n * unitsPerOne).natAbs

/-- Signs keep what is nearest, because nothing of the other sign is nearer than zero. -/
theorem withSign_nearest {n : Int} {size other one : Nat} (sign : Bool)
    (nearest : gap size (n.natAbs * one) ≤ gap other (n.natAbs * one))
    (zero : gap size (n.natAbs * one) ≤ gap 0 (n.natAbs * one)) :
    (withSign (n < 0) size - n * one).natAbs ≤ (withSign sign other - n * one).natAbs := by
  unfold gap at nearest zero
  by_cases neg : n < 0
  · have product : n * one = -((n.natAbs * one : Nat) : Int) := by
      rw [Int.natCast_mul, Int.ofNat_natAbs_of_nonpos (Int.le_of_lt neg), Int.neg_mul, Int.neg_neg]
    rw [product, decide_eq_true neg]
    cases sign <;> simp only [withSign, Bool.false_eq_true, ↓reduceIte] <;> omega
  · have product : n * one = ((n.natAbs * one : Nat) : Int) := by
      rw [Int.natCast_mul, Int.natAbs_of_nonneg (Int.not_lt.mp neg)]
    rw [product, decide_eq_false neg]
    cases sign <;> simp only [withSign, Bool.false_eq_true, ↓reduceIte] <;> omega

section Range

variable {a b : Int} (rangeA : a.natAbs ≤ twoTo 63) (rangeB : b.natAbs ≤ twoTo 63)
include rangeA

theorem ofInt_eq_finite :
    ofInt a = .finite (a < 0) ⟨codeOfNat a.natAbs, codeOfNat_lt rangeA⟩ := by
  have code : roundCode fractionBits (a.natAbs * unitsPerOne) 1 = codeOfNat a.natAbs := rfl
  have whole : ofInt a = ofUnits (a < 0) (a.natAbs * unitsPerOne) 1 := rfl
  rw [whole, ofUnits_eq, code]
  exact dif_pos (codeOfNat_lt rangeA)

theorem isNearest_ofInt : (ofInt a).IsNearest a := by
  rw [ofInt_eq_finite rangeA]
  refine ⟨_, rfl, ?_⟩
  intro y v value
  have nearest := roundCode_nearest fractionBits (a.natAbs * unitsPerOne)
  have zero := nearest 0
  rw [unitsOf_of_lt (twoTo_pos fractionBits)] at zero
  cases y with
  | finite sign code =>
    cases value
    exact withSign_nearest sign (nearest code.val) zero
  | _ => cases value

theorem rank?_ofInt : (ofInt a).rank? = some (rankOfInt a) := by
  rw [ofInt_eq_finite rangeA, rank?, rankOfInt]

include rangeB

theorem ofInt_eq_ofInt_iff : ofInt a = ofInt b ↔ rankOfInt a = rankOfInt b := by
  rw [ofInt_eq_finite rangeA, ofInt_eq_finite rangeB, rankOfInt_eq_iff, finite.injEq,
    Fin.mk.injEq, decide_eq_decide]

/-- The nearest numbers of two integers are ordered as these are, unless there is only one. -/
theorem compare?_ofInt : (ofInt a).compare? (ofInt b) =
    some (if ofInt a = ofInt b then .eq else if a < b then .lt else .gt) := by
  have one := ofInt_eq_ofInt_iff rangeA rangeB
  rw [compare?_of_rank? (rank?_ofInt rangeA) (rank?_ofInt rangeB)]
  by_cases same : rankOfInt a = rankOfInt b
  · have level : ¬rankOfInt a < rankOfInt b := Int.not_lt.mpr (Int.le_of_eq same.symm)
    rw [if_neg level, if_pos same, if_pos (one.mpr same)]
  · rw [if_neg (mt one.mp same)]
    by_cases lt : a < b
    · have ranks := rankOfInt_mono (Int.le_of_lt lt)
      rw [if_pos (Int.lt_iff_le_and_ne.mpr ⟨ranks, same⟩), if_pos lt]
    · have ranks := rankOfInt_mono (Int.not_lt.mp lt)
      rw [if_neg (Int.not_lt.mpr ranks), if_neg same, if_neg lt]

end Range

end Binary64

end FlatRecord
