import FlatRecord.Proofs.Binary64.Whole
import FlatRecord.Value.Convert

namespace FlatRecord

/-- The range of the 64-bit signed integers. -/
def InInt64 (n : Int) : Prop := Int64.minValue.toInt ≤ n ∧ n ≤ Int64.maxValue.toInt

instance (n : Int) : Decidable (InInt64 n) := inferInstanceAs (Decidable (_ ∧ _))

theorem inInt64_iff {n : Int} : InInt64 n ↔ -(twoTo 63 : Int) ≤ n ∧ n < twoTo 63 := by
  have limit : twoTo 63 = 2 ^ 63 := rfl
  rw [InInt64, Int64.toInt_minValue, Int64.toInt_maxValue]
  omega

theorem inInt64_toInt (n : Int64) : InInt64 n.toInt := ⟨n.minValue_le_toInt, n.toInt_le⟩

namespace Value

theorem toInt_saturate (n : Int) :
    (saturate n).toInt = max Int64.minValue.toInt (min n Int64.maxValue.toInt) := by
  rw [saturate, Int64.toInt_ofInt_of_le]
  all_goals
    rw [Int64.toInt_minValue, Int64.toInt_maxValue]
    omega

theorem toInt_saturate_of_inInt64 {n : Int} (range : InInt64 n) : (saturate n).toInt = n := by
  rw [toInt_saturate, Int.min_eq_left range.2, Int.max_eq_right range.1]

theorem saturate_toInt (n : Int64) : saturate n.toInt = n :=
  Int64.toInt_inj.mp (toInt_saturate_of_inInt64 (inInt64_toInt n))

theorem saturate_of_not_inInt64 {n : Int} (beyond : ¬InInt64 n) :
    saturate n = if n < 0 then Int64.minValue else Int64.maxValue := by
  have limit : twoTo 63 = 2 ^ 63 := rfl
  rw [inInt64_iff] at beyond
  apply Int64.toInt_inj.mp
  rw [toInt_saturate, Int64.toInt_minValue, Int64.toInt_maxValue]
  split
  · rw [Int64.toInt_minValue]
    omega
  · rw [Int64.toInt_maxValue]
    omega

/-- The whole number that a value holds. A text that spells no 64-bit integer stands for the float
that it spells, and a float is cut off at the point. -/
def whole? : Value → Option Int
  | .bool b => some (if b then 1 else 0)
  | .int n => some n.toInt
  | .float x => x.truncate?
  | .string s =>
    match Numeral.readInt64? (Text.trim s) with
    | some n => some n.toInt
    | none => (Numeral.readBinary? (Text.trim s)).bind Binary64.truncate?
  | _ => none

@[simp] theorem whole?_null : Value.null.whole? = none := rfl

/-- The value has no integer in it but a float. -/
inductive FloatOnly : Value → Binary64 → Prop
  | float (x : Binary64) : FloatOnly (.float x) x
  | text {s : String} {x : Binary64} : Numeral.readInt64? (Text.trim s) = none →
      Numeral.readBinary? (Text.trim s) = some x → FloatOnly (.string s) x

theorem FloatOnly.whole?_eq {v : Value} {x : Binary64} (only : FloatOnly v x) :
    v.whole? = x.truncate? := by
  cases only with
  | float => rfl
  | text noInteger float =>
    unfold whole?
    simp only [noInteger, float]
    rfl

/-- An integer is read from the whole number that a value holds, of which what lies beyond the
range counts as its end. -/
theorem toOption_toInt64 (v : Value) : v.toInt64.toOption = v.whole?.map saturate := by
  cases v with
  | bool b => cases b <;> rfl
  | int n => exact congrArg some (saturate_toInt n).symm
  | float x =>
    unfold toInt64 whole?
    simp only [wholePart?]
    cases x.truncate? <;> rfl
  | string s =>
    unfold toInt64 whole?
    cases integer : Numeral.readInt64? (Text.trim s) with
    | some n =>
      simp only [integer]
      exact congrArg some (saturate_toInt n).symm
    | none =>
      cases float : Numeral.readBinary? (Text.trim s) with
      | none =>
        simp only [integer, float]
        rfl
      | some x =>
        simp only [integer, float, Option.bind_some, wholePart?]
        cases x.truncate? <;> rfl
  | _ => rfl

theorem toInt64_eq_ok_iff {v : Value} {n : Int64} :
    v.toInt64 = .ok n ↔ ∃ m, v.whole? = some m ∧ saturate m = n := by
  rw [← Option.map_eq_some_iff, ← toOption_toInt64]
  cases v.toInt64 with
  | ok k => simp [Except.toOption]
  | error e => simp [Except.toOption]

/-- A float just beyond the range is not read as the number it holds, nor refused. -/
theorem toInt64_beyond_range :
    (∃ x, FloatOnly (.float x) x ∧ x.truncate? = some 9223372036854775808 ∧
      (Value.float x).toInt64 = .ok 9223372036854775807) ∧
    ¬∀ (v : Value) (x : Binary64) (n : Int64), v.FloatOnly x → v.toInt64 = .ok n →
      x.truncate? = some n.toInt := by
  let x : Binary64 := .ofInt 9223372036854775808
  have whole : x.truncate? = some 9223372036854775808 :=
    Binary64.truncate?_ofInt ⟨1, 63, by decide, by decide⟩ (by decide)
  have read : (Value.float x).toInt64 = .ok 9223372036854775807 :=
    toInt64_eq_ok_iff.mpr ⟨_, whole, by decide⟩
  refine ⟨⟨x, .float x, whole, read⟩, ?_⟩
  intro exact
  have same := exact (.float x) x _ (.float x) read
  rw [whole] at same
  exact absurd (Option.some.inj same) (by decide)

/-- The value holds no whole number that lies beyond the 64-bit integers. -/
def Fits (v : Value) : Prop := ∀ m, v.whole? = some m → InInt64 m

section Fits

variable {v : Value} (fits : v.Fits)
include fits

theorem Fits.toInt64_eq_ok_iff {n : Int64} : v.toInt64 = .ok n ↔ v.whole? = some n.toInt := by
  rw [Value.toInt64_eq_ok_iff]
  constructor
  · rintro ⟨m, held, rfl⟩
    rw [toInt_saturate_of_inInt64 (fits m held), held]
  · exact fun held => ⟨n.toInt, held, saturate_toInt n⟩

/-- Null stays as it is, and any other value becomes the number it holds. -/
theorem Fits.coerce_int_eq_ok_iff {w : Value} : v.coerce .int = .ok w ↔
    v = .null ∧ w = .null ∨ ∃ n, w = .int n ∧ v.whole? = some n.toInt := by
  by_cases null : v = .null
  · subst null
    have kept : Value.null.coerce .int = .ok .null := rfl
    simp [kept, eq_comm]
  · have present : v.isNull = false := by
      cases v with
      | null => exact absurd rfl null
      | _ => rfl
    rw [coerce, present]
    simp only [Bool.false_eq_true, ↓reduceIte, null, false_and, false_or, ← fits.toInt64_eq_ok_iff]
    cases v.toInt64 with
    | ok n => simp [Except.map, eq_comm]
    | error e => simp [Except.map]

end Fits

end Value

end FlatRecord
