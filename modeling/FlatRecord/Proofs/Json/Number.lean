import FlatRecord.Proofs.Decimal.Text

namespace FlatRecord

namespace Numeral

theorem head?_toDigits {n : Nat} (pos : 0 < n) : (Nat.toDigits 10 n).head? ≠ some '0' := by
  induction n using Nat.strongRecOn with
  | _ n ih =>
    by_cases one : n < 10
    · rw [Nat.toDigits_of_lt_base one]
      have digits : ∀ m : Fin 10, 0 < m.val → some m.val.digitChar ≠ some '0' := by decide
      exact digits ⟨n, one⟩ pos
    · rw [Nat.toDigits_of_base_le (by decide) (by omega), List.head?_append]
      have tail := ih (n / 10) (by omega) (by omega)
      cases first : (Nat.toDigits 10 (n / 10)).head? with
      | none => exact absurd (List.head?_eq_none_iff.mp first) Nat.toDigits_ne_nil
      | some c =>
        rw [first] at tail
        exact tail

/-- The digits of a whole number as JSON has them: a leading zero stands alone. -/
structure Whole (cs : List Char) : Prop where
  digits : Digits cs
  some : cs ≠ []
  plain : cs = ['0'] ∨ cs.head? ≠ .some '0'

theorem whole_toDigits (n : Nat) : Whole (Nat.toDigits 10 n) where
  digits := digits_toDigits n
  some := Nat.toDigits_ne_nil
  plain := by
    rcases Nat.eq_zero_or_pos n with rfl | pos
    · exact Or.inl rfl
    · exact Or.inr (head?_toDigits pos)

/-- A power of ten as it is written after the digits of a number. -/
def powerText : Option Int → List Char
  | none => []
  | some power => 'e' :: (if power < 0 then '-' else '+') :: Nat.toDigits 10 power.natAbs

end Numeral

namespace Json

open Numeral

/-- What may follow a number: nothing that it could go on with. -/
def Closed (rest : List Char) : Prop :=
  ∀ c ∈ rest.head?, c.isDigit = false ∧ c ≠ '.' ∧ c ≠ 'e' ∧ c ≠ 'E'

theorem closed_cons {c : Char} (h : c = ',' ∨ c = ']' ∨ c = '}') (rest : List Char) :
    Closed (c :: rest) := by
  intro d mem
  cases mem
  rcases h with rfl | rfl | rfl <;> decide

theorem closed_nil : Closed [] := by
  intro c mem
  cases mem

theorem readWhole?_append {whole rest : List Char} (h : Whole whole)
    (stop : ∀ c ∈ rest.head?, c.isDigit = false) :
    readWhole? (whole ++ rest) = some (whole, rest) := by
  unfold readWhole?
  rw [span_digits h.digits rest stop]
  cases whole with
  | nil => exact absurd rfl h.some
  | cons c cs =>
    by_cases zero : c = '0'
    · subst zero
      rcases h.plain with eq | ne
      · cases eq
        rfl
      · exact absurd rfl ne
    · split
      next eq =>
        cases eq
        exact absurd rfl zero
      next eq =>
        cases eq
        exact absurd rfl zero
      next eq => cases eq
      next eq =>
        cases eq
        rfl

theorem readFraction?_append {fraction rest : List Char} (digits : Digits fraction)
    (stop : ∀ c ∈ rest.head?, c.isDigit = false ∧ c ≠ '.') :
    readFraction? (fractionText fraction ++ rest) =
      some (if fraction = [] then none else some fraction, rest) := by
  cases fraction with
  | nil =>
    cases rest with
    | nil => rfl
    | cons c rest =>
      have other := (stop c rfl).2
      unfold readFraction? fractionText
      split
      next eq =>
        cases eq
        exact absurd rfl other
      next => rfl
  | cons d ds =>
    have text : fractionText (d :: ds) ++ rest = '.' :: (d :: ds ++ rest) := rfl
    unfold readFraction?
    rw [text]
    simp only
    rw [span_digits digits rest fun c mem => (stop c mem).1]
    rfl

theorem readPower?_append (power : Option Int) {rest : List Char} (closed : Closed rest) :
    readPower? (powerText power ++ rest) = some (power, rest) := by
  cases power with
  | none =>
    cases rest with
    | nil => rfl
    | cons c rest =>
      obtain ⟨_, _, small, capital⟩ := closed c rfl
      simp [powerText, readPower?, small, capital]
  | some power =>
    have digits := digits_toDigits power.natAbs
    have stop : ∀ c ∈ rest.head?, c.isDigit = false := fun c mem => (closed c mem).1
    have sign : splitSign ((if power < 0 then '-' else '+') :: (Nat.toDigits 10 power.natAbs ++ rest)) =
        (decide (power < 0), Nat.toDigits 10 power.natAbs ++ rest) := by
      by_cases negative : power < 0
      · simp [negative, splitSign]
      · simp [negative, splitSign]
    unfold powerText
    rw [List.cons_append, List.cons_append, readPower?, if_pos (Or.inl rfl), sign]
    simp only
    rw [span_digits digits rest stop]
    cases ds : Nat.toDigits 10 power.natAbs with
    | nil => exact absurd ds Nat.toDigits_ne_nil
    | cons d rest =>
      simp only
      rw [← ds, natOfDigits_toDigits, withSign_natAbs]

theorem Closed.after_fraction {rest : List Char} (closed : Closed rest) (power : Option Int) :
    ∀ c ∈ (powerText power ++ rest).head?, c.isDigit = false ∧ c ≠ '.' := by
  cases power with
  | none => exact fun c mem => ⟨(closed c mem).1, (closed c mem).2.1⟩
  | some power =>
    intro c mem
    cases mem
    decide

theorem after_whole (fraction : List Char) {rest : List Char}
    (stop : ∀ c ∈ rest.head?, c.isDigit = false) :
    ∀ c ∈ (fractionText fraction ++ rest).head?, c.isDigit = false := by
  cases fraction with
  | nil => exact stop
  | cons d ds =>
    intro c mem
    cases mem
    rfl

/-- A number is read up to where it ends. -/
theorem readNumber?_append (negative : Bool) {whole fraction rest : List Char} {power : Option Int}
    (hw : Whole whole) (hf : Digits fraction) (closed : Closed rest) :
    readNumber? negative (whole ++ (fractionText fraction ++ (powerText power ++ rest))) =
      (if fraction = [] ∧ power = none then ofWhole? negative whole
        else ofDecimal? negative (decimalOf whole fraction (power.getD 0))).map fun number =>
          (number, rest) := by
  have stop := closed.after_fraction power
  unfold readNumber?
  rw [readWhole?_append hw (after_whole fraction fun c mem => (stop c mem).1)]
  simp only [Option.bind_eq_bind, Option.bind_some]
  rw [readFraction?_append hf stop]
  simp only [Option.bind_some]
  rw [readPower?_append power closed]
  simp only [Option.bind_some]
  have pair : ∀ number : Option Json,
      (number.bind fun n => some (n, rest)) = number.map fun n => (n, rest) := by
    intro number
    cases number <;> rfl
  cases fraction with
  | nil =>
    cases power with
    | none => simp [pair]
    | some power => simp [pair]
  | cons d ds => simp [pair]

end Json

namespace Decimal

open Numeral

theorem coefficient_shortest (tie : Tie) {code : Fin Binary64.magnitudes} (some : code.val ≠ 0) :
    0 < (shortest tie code).coefficient := by
  apply Nat.pos_of_ne_zero
  intro zero
  have read := toBinary_shortest false tie code
  rw [toBinary, if_pos zero] at read
  cases read
  exact some rfl

/-- The decimal with a zero added after the point. -/
theorem decimalOf_point_zero (negative : Bool) (whole : List Char) :
    (decimalOf whole ['0'] 0).toBinary negative = (decimalOf whole [] 0).toBinary negative := by
  have coefficient : natOfDigits (whole ++ ['0']) = natOfDigits whole * tenTo 1 := by
    have zero : natOfDigits ['0'] = 0 := rfl
    rw [natOfDigits_append, zero]
    rfl
  rw [decimalOf, coefficient, toBinary_shift, decimalOf, List.append_nil]
  rfl

end Decimal

namespace Binary64

open Numeral

theorem scientific_eq (ds : List Char) (power : Int) :
    Decimal.scientific ds power =
      ds.take 1 ++ (fractionText (ds.drop 1) ++ powerText (some power)) := by
  have fraction : (if (ds.drop 1).isEmpty then [] else '.' :: ds.drop 1) =
      fractionText (ds.drop 1) := by
    cases ds.drop 1 <;> rfl
  unfold Decimal.scientific
  simp only
  rw [fraction, List.append_assoc]
  rfl

theorem decimalOf_scientific (ds : List Char) (some : ds ≠ []) (power : Int) :
    decimalOf (ds.take 1) (ds.drop 1) power = ⟨natOfDigits ds, power + 1 - ds.length⟩ := by
  have length : 0 < ds.length := List.length_pos_iff.mpr some
  have exponent : power - (ds.drop 1).length = power + 1 - ds.length := by
    rw [List.length_drop]
    omega
  rw [decimalOf, List.take_append_drop, exponent]

/-- The parts of a JSON number. It has a fraction or a power of ten, by which it differs from an
integer, and spells a magnitude. -/
structure JsonParts (code : Fin magnitudes) (text whole fraction : List Char)
    (power : Option Int) : Prop where
  spelling : text = whole ++ (fractionText fraction ++ powerText power)
  plain : Whole whole
  digits : Digits fraction
  inexact : ¬(fraction = [] ∧ power = none)
  number : ∀ negative, (decimalOf whole fraction (power.getD 0)).toBinary negative =
    .finite negative code

section JsonParts

variable {code : Fin magnitudes} {d : Decimal} (digits : Whole d.digits)
  (spelled : ∀ negative, d.toBinary negative = .finite negative code)
include digits spelled

theorem exists_jsonParts_positional (head : d.digits.head? ≠ some '0') :
    ∃ whole fraction, JsonParts code
      (Decimal.positional d.digits d.point ++ if d.digits.length ≤ d.point then ['.', '0'] else [])
      whole fraction none := by
  obtain ⟨whole, fraction, placed⟩ := Decimal.exists_placed digits.digits digits.some d.point
  have plain : Whole whole := by
    refine ⟨placed.wholeDigits, placed.some, placed.head.imp_right ?_⟩
    intro eq
    rwa [eq]
  have same : ∀ negative, (decimalOf whole fraction 0).toBinary negative =
      .finite negative code := by
    intro negative
    rw [placed.number, Decimal.natOfDigits_digits, Decimal.point_sub_length, Int.add_zero]
    exact spelled negative
  rw [placed.text]
  by_cases after : d.digits.length ≤ d.point
  · obtain rfl := placed.fraction_eq_nil_iff.mpr after
    refine ⟨whole, ['0'], ?_, plain, digits_zeros 1, by simp, ?_⟩
    · simp [after, plainText, fractionText, powerText]
    · intro negative
      exact (Decimal.decimalOf_point_zero negative whole).trans (same negative)
  · refine ⟨whole, fraction, ?_, plain, placed.fractionDigits, ?_, same⟩
    · simp [after, plainText, powerText]
    · exact fun absent => after (placed.fraction_eq_nil_iff.mp absent.1)

theorem jsonParts_scientific (head : d.digits.head? ≠ some '0') :
    JsonParts code (Decimal.scientific d.digits (d.point - 1)) (d.digits.take 1) (d.digits.drop 1)
      (some (d.point - 1)) where
  spelling := scientific_eq _ _
  plain := by
    refine ⟨fun c mem => digits.digits c (List.mem_of_mem_take mem), ?_, ?_⟩
    · intro empty
      rcases List.take_eq_nil_iff.mp empty with zero | empty
      · cases zero
      · exact digits.some empty
    · rw [List.head?_take]
      exact Or.inr head
  digits := fun c mem => digits.digits c (List.mem_of_mem_drop mem)
  inexact := by simp
  number := by
    intro negative
    have exponent : d.point - 1 + 1 - d.digits.length = d.exponent := by
      have := d.point_sub_length
      omega
    rw [Option.getD_some, decimalOf_scientific d.digits digits.some, exponent,
      Decimal.natOfDigits_digits]
    exact spelled negative

end JsonParts

theorem exists_jsonParts (code : Fin magnitudes) :
    ∃ whole fraction power, JsonParts code (jsonMagnitude code) whole fraction power := by
  by_cases zero : code.val = 0
  · have first : code = ⟨0, by decide⟩ := Fin.ext zero
    subst first
    exact ⟨['0'], ['0'], none, rfl, ⟨digits_zeros 1, by simp, Or.inl rfl⟩, digits_zeros 1, by simp,
      fun _ => rfl⟩
  have digits : Whole (Decimal.shortest .even code).digits := whole_toDigits _
  have head : (Decimal.shortest .even code).digits.head? ≠ some '0' :=
    head?_toDigits (Decimal.coefficient_shortest .even zero)
  have spelled := fun negative => Decimal.toBinary_shortest negative .even code
  rw [jsonMagnitude, if_neg zero]
  simp only
  split
  next short =>
    obtain ⟨whole, fraction, parts⟩ := exists_jsonParts_positional digits spelled head
    exact ⟨whole, fraction, none, parts⟩
  next long => exact ⟨_, _, _, jsonParts_scientific digits spelled head⟩

end Binary64

namespace Json

open Numeral

theorem readNumber?_magnitude (negative : Bool) (code : Fin Binary64.magnitudes)
    {rest : List Char} (closed : Closed rest) :
    readNumber? negative (Binary64.jsonMagnitude code ++ rest) =
      some (.float (.finite negative code), rest) := by
  obtain ⟨whole, fraction, power, parts⟩ := Binary64.exists_jsonParts code
  rw [parts.spelling, List.append_assoc, List.append_assoc,
    readNumber?_append negative parts.plain parts.digits closed, if_neg parts.inexact, ofDecimal?,
    parts.number]
  rfl

/-- The integers that JSON numbers are read as. -/
def InRange (n : Int) : Prop := -(twoTo 63 : Int) ≤ n ∧ n < twoTo 64

theorem readNumber?_int {n : Int} (range : InRange n) {rest : List Char} (closed : Closed rest) :
    readNumber? (n < 0) (Nat.toDigits 10 n.natAbs ++ rest) = some (.int n, rest) := by
  have read : readNumber? (n < 0) (Nat.toDigits 10 n.natAbs ++
      (fractionText [] ++ (powerText none ++ rest))) = _ :=
    readNumber?_append (n < 0) (whole_toDigits n.natAbs) (by simp [Digits]) closed
  simp only [fractionText, powerText, List.nil_append, and_self, ↓reduceIte] at read
  have positive : (decide (n < 0) && n == 0) = false := by
    by_cases zero : n = 0
    · simp [zero]
    · simp [zero]
  rw [read, ofWhole?, natOfDigits_toDigits, withSign_natAbs]
  simp only [positive, Bool.false_eq_true, ↓reduceIte]
  rw [if_pos ⟨range.1, range.2⟩]
  rfl

end Json

end FlatRecord
