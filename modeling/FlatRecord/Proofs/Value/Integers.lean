import FlatRecord.Proofs.Binary64.Integers
import FlatRecord.Proofs.Decimal.Text
import FlatRecord.Value.Compare

namespace FlatRecord

/-- What a comparison of two whole numbers says. -/
def Operator.relates (op : Operator) (m n : Int) : Bool :=
  match op with
  | .eq => m = n
  | .ne => m ≠ n
  | .gt => n < m
  | .lt => m < n
  | .ge => n ≤ m
  | .le => m ≤ n
  | _ => false

namespace Binary64

theorem natAbs_toInt_le (n : Int64) : n.toInt.natAbs ≤ twoTo 63 := by
  have low := n.le_toInt
  have high := n.toInt_lt
  have limit : twoTo 63 = 2 ^ 63 := rfl
  omega

end Binary64

namespace Value

/-- Whether two integers have the same nearest float. -/
def sameNearest (a b : Int64) : Bool := Binary64.ofInt a.toInt = Binary64.ofInt b.toInt

theorem sameNearest_iff {a b : Int64} :
    sameNearest a b = true ↔ Binary64.ofInt a.toInt = Binary64.ofInt b.toInt := by
  rw [sameNearest, decide_eq_true_iff]

/-- An integer of at most 53 bits shares its nearest float with no other. -/
theorem sameNearest_of_small {a b : Int64}
    (small : a.toInt.natAbs < twoTo 53 ∨ b.toInt.natAbs < twoTo 53) :
    sameNearest a b = decide (a = b) := by
  rw [sameNearest, decide_eq_decide, Binary64.ofInt_eq_ofInt_iff (Binary64.natAbs_toInt_le a)
    (Binary64.natAbs_toInt_le b), ← Int64.toInt_inj]
  refine ⟨?_, congrArg Binary64.rankOfInt⟩
  intro same
  rcases small with small | small
  · exact Binary64.eq_of_rankOfInt_eq small same
  · exact (Binary64.eq_of_rankOfInt_eq small same.symm).symm

variable (a b : Int64)

theorem text_int_inj : (Value.int a).text = (Value.int b).text ↔ a = b := by
  refine ⟨?_, congrArg fun n => (Value.int n).text⟩
  intro same
  have read := Numeral.readInt64?_intChars a
  rw [show String.ofList (Json.intChars a.toInt) = String.ofList (Json.intChars b.toInt) from same,
    Numeral.readInt64?_intChars b] at read
  exact (Option.some.inj read).symm

theorem bothNumeric?_int :
    bothNumeric? (.int a) (.int b) = some (.ofInt a.toInt, .ofInt b.toInt) := by
  rw [bothNumeric?, toFloat, toFloat]

theorem compare?_int : (Binary64.ofInt a.toInt).compare? (.ofInt b.toInt) =
    some (if sameNearest a b then .eq else if a.toInt < b.toInt then .lt else .gt) := by
  have ordered := Binary64.compare?_ofInt (Binary64.natAbs_toInt_le a) (Binary64.natAbs_toInt_le b)
  simp only [← sameNearest_iff] at ordered
  exact ordered

theorem order?_int : order? (.int a) (.int b) =
    some (if sameNearest a b then .eq else if a.toInt < b.toInt then .lt else .gt) := by
  rw [order?, bothNumeric?_int]
  exact compare?_int a b

theorem numEq_int : (Binary64.ofInt a.toInt).numEq (.ofInt b.toInt) = sameNearest a b := by
  rw [Binary64.numEq, compare?_int]
  cases sameNearest a b with
  | true => rfl
  | false =>
    simp only [Bool.false_eq_true, ↓reduceIte]
    split <;> rfl

/-- Integers are equal if they have the same nearest float. -/
theorem equal_int : (Value.int a).equal (.int b) = sameNearest a b := by
  by_cases same : a = b
  · subst same
    simp [equal, isNull, Value.same, sameNearest]
  · have texts : ((Value.int a).text == (Value.int b).text) = false := by
      rw [beq_eq_false_iff_ne]
      exact mt (text_int_inj a b).mp same
    have contents : (Value.int a).same (.int b) = false := by
      rw [Value.same, beq_eq_false_iff_ne]
      exact same
    rw [equal, texts, contents, bothNumeric?_int, Bool.or_false, Bool.false_or]
    exact numEq_int a b

/-- Values that are ordered as two whole numbers compare as these. -/
theorem compare_of_order {v w : Value} {m n : Int} {place : Ordering}
    (order : order? v w = some place) (equal : v.equal w = (place == .eq))
    (places : place = if m < n then .lt else if m = n then .eq else .gt)
    {op : Operator} (comparison : op.isComparison = true) :
    Value.compare op v w = .ok (op.relates m n) := by
  subst places
  cases op with
  | eq | ne | gt | lt | ge | le =>
    rw [compare]
    simp only [order, equal, Operator.relates]
    rcases Int.lt_trichotomy m n with below | rfl | above
    · simp [below, Int.ne_of_lt below, Int.le_of_lt below]
    · simp
    · simp [above, Int.lt_asymm above, Int.ne_of_gt above, Int.le_of_lt above]
  | _ => cases comparison

/-- Integers compare as they are, except that two with the same nearest float count as one. -/
theorem compare_int {op : Operator} (comparison : op.isComparison = true) :
    Value.compare op (.int a) (.int b) =
      .ok (if sameNearest a b then op.relates a.toInt a.toInt else op.relates a.toInt b.toInt) := by
  have equal := equal_int a b
  have order := order?_int a b
  cases merged : sameNearest a b with
  | true =>
    rw [merged] at order equal
    exact compare_of_order order equal (by simp) comparison
  | false =>
    rw [merged] at order equal
    have apart : a.toInt ≠ b.toInt := by
      intro same
      rw [sameNearest, same, decide_eq_true rfl] at merged
      cases merged
    refine compare_of_order order ?_ ?_ comparison
    · rw [equal]
      simp only [Bool.false_eq_true, ↓reduceIte]
      split <;> rfl
    · simp [apart]

/-- Beyond 53 bits two integers can count as one. -/
theorem compare_int_merged :
    (9007199254740992 : Int64) ≠ 9007199254740993 ∧
    Value.compare .eq (.int 9007199254740992) (.int 9007199254740993) = .ok true ∧
    ¬∀ (op : Operator) (a b : Int64), op.isComparison = true →
      Value.compare op (.int a) (.int b) = .ok (op.relates a.toInt b.toInt) := by
  have equal : Value.compare .eq (.int 9007199254740992) (.int 9007199254740993) = .ok true := by
    rw [compare]
    exact congrArg Except.ok (by decide +kernel)
  refine ⟨by decide, equal, ?_⟩
  intro exact
  have truth := exact .eq 9007199254740992 9007199254740993 rfl
  rw [equal] at truth
  exact absurd (Except.ok.inj truth) (by decide)

end Value

end FlatRecord
