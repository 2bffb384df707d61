import Mathlib.Data.List.TakeDrop
import FlatRecord.Json.Read
import FlatRecord.Proofs.Decimal.Shortest
import FlatRecord.Text.Blank

namespace FlatRecord

namespace Text

theorem dropWhile_of_head {cs : List Char} (first : ∀ c ∈ cs.head?, isBlank c = false) :
    cs.dropWhile isBlank = cs := by
  cases cs with
  | nil => rfl
  | cons c cs =>
    have solid : isBlank c = false := first c rfl
    simp [solid]

/-- A text with no blank at either end has none to lose. -/
theorem trimChars_of_ends {cs : List Char} (first : ∀ c ∈ cs.head?, isBlank c = false)
    (last : ∀ c ∈ cs.getLast?, isBlank c = false) : trimChars cs = cs := by
  have ends : ∀ c ∈ cs.reverse.head?, isBlank c = false := by
    rwa [List.head?_reverse]
  rw [trimChars, dropWhile_of_head first, dropWhile_of_head ends, List.reverse_reverse]

theorem trim_of_solid {s : String} (solid : ∀ c ∈ s.toList, isBlank c = false) : trim s = s := by
  rw [trim, trimChars_of_ends, String.ofList_toList]
  · exact fun c mem => solid c (List.mem_of_mem_head? mem)
  · exact fun c mem => solid c (List.mem_of_getLast? mem)

end Text

namespace Numeral

/-- Nothing but digits. -/
def Digits (cs : List Char) : Prop := ∀ c ∈ cs, c.isDigit = true

theorem Digits.append {xs ys : List Char} (hx : Digits xs) (hy : Digits ys) : Digits (xs ++ ys) := by
  intro c mem
  rcases List.mem_append.mp mem with mem | mem
  · exact hx c mem
  · exact hy c mem

theorem digits_zeros (n : Nat) : Digits (Decimal.zeros n) := by
  intro c mem
  rw [List.eq_of_mem_replicate mem]
  rfl

theorem digits_toDigits (n : Nat) : Digits (Nat.toDigits 10 n) :=
  fun _ mem => Nat.isDigit_of_mem_toDigits (by decide) (by decide) mem

theorem isDigit_iff {c : Char} : c.isDigit = true ↔ 48 ≤ c.toNat ∧ c.toNat ≤ 57 := by
  simp only [Char.isDigit, Bool.and_eq_true, decide_eq_true_eq, ge_iff_le]
  exact Iff.rfl

theorem isBlank_of_isDigit {c : Char} (h : c.isDigit = true) : Text.isBlank c = false := by
  have range := isDigit_iff.mp h
  simp only [Text.isBlank, Bool.or_eq_false_iff, Bool.and_eq_false_iff, decide_eq_false_iff_not,
    beq_eq_false_iff_ne]
  omega

theorem toLower_of_isDigit {c : Char} (h : c.isDigit = true) : c.toLower = c := by
  have range := isDigit_iff.mp h
  unfold Char.toLower
  rw [dif_neg]
  intro capital
  have : 65 ≤ c.toNat := capital.1
  omega

theorem span_digits {xs : List Char} (digits : Digits xs) (rest : List Char)
    (stop : ∀ c ∈ rest.head?, c.isDigit = false) :
    (xs ++ rest).span Char.isDigit = (xs, rest) := by
  have tail : rest.takeWhile Char.isDigit = [] ∧ rest.dropWhile Char.isDigit = rest := by
    cases rest with
    | nil => exact ⟨rfl, rfl⟩
    | cons c rest =>
      have other : c.isDigit = false := stop c rfl
      simp [other]
  rw [List.span_eq_takeWhile_dropWhile, List.takeWhile_append_of_pos digits,
    List.dropWhile_append_of_pos digits, tail.1, tail.2, List.append_nil]

theorem span_digits_all {xs : List Char} (digits : Digits xs) :
    xs.span Char.isDigit = (xs, []) := by
  have all := span_digits digits [] (by simp)
  rwa [List.append_nil] at all

theorem natOfDigits_append (xs ys : List Char) :
    natOfDigits (xs ++ ys) = natOfDigits xs * tenTo ys.length + natOfDigits ys := by
  unfold natOfDigits
  rw [Nat.ofDigitChars_append, Nat.ofDigitChars_eq_ofDigitChars_zero, Nat.mul_comm]
  rfl

theorem natOfDigits_zeros (n : Nat) : natOfDigits (Decimal.zeros n) = 0 :=
  Nat.ofDigitChars_replicate_zero

theorem natOfDigits_toDigits (n : Nat) : natOfDigits (Nat.toDigits 10 n) = n :=
  Nat.ofDigitChars_ten_toDigits

theorem readDigits?_eq_some {cs : List Char} (ne : cs ≠ []) (digits : Digits cs) :
    readDigits? cs = some (natOfDigits cs) := by
  have all : cs.all Char.isDigit = true := List.all_eq_true.mpr digits
  have some : cs.isEmpty = false := List.isEmpty_eq_false_iff.mpr ne
  simp [readDigits?, all, some]

theorem splitSign_digit {c : Char} (digit : c.isDigit = true) (cs : List Char) :
    splitSign (c :: cs) = (false, c :: cs) := by
  unfold splitSign
  split
  next eq =>
    cases eq
    cases digit
  next eq =>
    cases eq
    cases digit
  next => rfl

theorem splitSign_signChars (negative : Bool) {cs : List Char} (ne : cs ≠ [])
    (digits : Digits cs) : splitSign (Binary64.signChars negative ++ cs) = (negative, cs) := by
  cases negative with
  | true => rfl
  | false =>
    cases cs with
    | nil => exact absurd rfl ne
    | cons c cs => exact splitSign_digit (digits c List.mem_cons_self) cs

/-- A point and the digits after it, or nothing if there are none. -/
def fractionText : List Char → List Char
  | [] => []
  | d :: ds => '.' :: d :: ds

theorem fractionText_of_ne_nil {fraction : List Char} (some : fraction ≠ []) :
    fractionText fraction = '.' :: fraction := by
  cases fraction with
  | nil => exact absurd rfl some
  | cons d ds => rfl

def plainText (whole fraction : List Char) : List Char := whole ++ fractionText fraction

theorem splitFraction_fractionText {fraction : List Char} (digits : Digits fraction) :
    splitFraction (fractionText fraction) = (fraction, []) := by
  cases fraction with
  | nil => rfl
  | cons d ds => exact span_digits_all digits

theorem readDecimal?_plainText {whole fraction : List Char} (ne : whole ≠ []) (hw : Digits whole)
    (hf : Digits fraction) :
    readDecimal? (plainText whole fraction) = some (decimalOf whole fraction 0) := by
  have stop : ∀ c ∈ (fractionText fraction).head?, c.isDigit = false := by
    cases fraction with
    | nil => simp [fractionText]
    | cons d ds =>
      intro c mem
      cases mem
      rfl
  have some : whole.isEmpty = false := List.isEmpty_eq_false_iff.mpr ne
  unfold readDecimal? plainText
  rw [span_digits hw _ stop]
  simp [splitFraction_fractionText hf, readPower?, some]

end Numeral

namespace Decimal

open Numeral

/-- The digits before and after the point where it is placed among or around the given digits. They
spell the same number. -/
structure Placed (ds : List Char) (point : Int) (whole fraction : List Char) : Prop where
  text : positional ds point = plainText whole fraction
  some : whole ≠ []
  wholeDigits : Digits whole
  fractionDigits : Digits fraction
  fraction_eq_nil_iff : fraction = [] ↔ ds.length ≤ point
  head : whole = ['0'] ∨ whole.head? = ds.head?
  number : ∀ negative power, (decimalOf whole fraction power).toBinary negative =
    toBinary negative ⟨natOfDigits ds, point - ds.length + power⟩

section Placed

variable {ds : List Char} {point : Int} (digits : Digits ds)
include digits

theorem placed_before (some : ds ≠ []) (before : point ≤ 0) :
    Placed ds point ['0'] (zeros (-point).toNat ++ ds) where
  text := by
    rw [positional, if_pos before, plainText, fractionText_of_ne_nil (by simp [some])]
    rfl
  some := by simp
  wholeDigits := digits_zeros 1
  fractionDigits := (digits_zeros _).append digits
  fraction_eq_nil_iff := by
    have length : 0 < ds.length := List.length_pos_iff.mpr some
    simp only [List.append_eq_nil_iff, some, and_false, false_iff]
    omega
  head := Or.inl rfl
  number := by
    intro negative power
    have coefficient : natOfDigits (['0'] ++ (zeros (-point).toNat ++ ds)) = natOfDigits ds := by
      have zero : natOfDigits ['0'] = 0 := rfl
      rw [natOfDigits_append, natOfDigits_append, zero, natOfDigits_zeros]
      omega
    have exponent : power - (zeros (-point).toNat ++ ds).length = point - ds.length + power := by
      rw [List.length_append, zeros, List.length_replicate]
      omega
    rw [decimalOf, coefficient, exponent]

theorem placed_after (some : ds ≠ []) (before : ¬point ≤ 0) (after : ds.length ≤ point) :
    Placed ds point (ds ++ zeros (point.toNat - ds.length)) [] where
  text := by
    rw [positional, if_neg before, if_pos after]
    exact (List.append_nil _).symm
  some := by simp [some]
  wholeDigits := digits.append (digits_zeros _)
  fractionDigits := by simp [Digits]
  fraction_eq_nil_iff := by simp [after]
  head := by
    cases ds with
    | nil => exact absurd rfl some
    | cons d ds => exact Or.inr rfl
  number := by
    intro negative power
    have length : (zeros (point.toNat - ds.length)).length = point.toNat - ds.length :=
      List.length_replicate
    have coefficient : natOfDigits (ds ++ zeros (point.toNat - ds.length) ++ []) =
        natOfDigits ds * tenTo (point.toNat - ds.length) := by
      rw [List.append_nil, natOfDigits_append, natOfDigits_zeros, length]
      omega
    have exponent : power - ([] : List Char).length + ((point.toNat - ds.length : Nat) : Int) =
        point - ds.length + power := by
      rw [List.length_nil]
      omega
    rw [decimalOf, coefficient, toBinary_shift, exponent]

theorem placed_inside (before : ¬point ≤ 0) (after : ¬ds.length ≤ point) :
    Placed ds point (ds.take point.toNat) (ds.drop point.toNat) := by
  have positive : 0 < point.toNat := by omega
  have inside : point.toNat < ds.length := by omega
  have more : ds.drop point.toNat ≠ [] := by
    rw [ne_eq, List.drop_eq_nil_iff]
    omega
  refine ⟨?_, ?_, ?_, ?_, ?_, ?_, ?_⟩
  · rw [positional, if_neg before, if_neg after, plainText, fractionText_of_ne_nil more]
  · intro empty
    have length := congrArg List.length empty
    rw [List.length_take, List.length_nil] at length
    omega
  · exact fun c mem => digits c (List.mem_of_mem_take mem)
  · exact fun c mem => digits c (List.mem_of_mem_drop mem)
  · simp only [more, after]
  · right
    rw [List.head?_take, if_neg (by omega)]
  · intro negative power
    have exponent : power - (ds.drop point.toNat).length = point - ds.length + power := by
      rw [List.length_drop]
      omega
    rw [decimalOf, List.take_append_drop, exponent]

theorem exists_placed (some : ds ≠ []) (point : Int) :
    ∃ whole fraction, Placed ds point whole fraction := by
  by_cases before : point ≤ 0
  · exact ⟨_, _, placed_before digits some before⟩
  by_cases after : ds.length ≤ point
  · exact ⟨_, _, placed_after digits some before after⟩
  · exact ⟨_, _, placed_inside digits before after⟩

end Placed

theorem natOfDigits_digits (d : Decimal) : natOfDigits d.digits = d.coefficient :=
  natOfDigits_toDigits d.coefficient

theorem digits_ne_nil (d : Decimal) : d.digits ≠ [] := Nat.toDigits_ne_nil

theorem point_sub_length (d : Decimal) : d.point - d.digits.length = d.exponent := by
  rw [point]
  omega

end Decimal

namespace Binary64

open Numeral

/-- The digits before and after the point in the plain text of a magnitude. -/
structure PlainParts (code : Fin magnitudes) (whole fraction : List Char) : Prop where
  text : plainMagnitude code = plainText whole fraction
  some : whole ≠ []
  wholeDigits : Digits whole
  fractionDigits : Digits fraction
  number : ∀ negative, (decimalOf whole fraction 0).toBinary negative = .finite negative code

theorem exists_plainParts (code : Fin magnitudes) :
    ∃ whole fraction, PlainParts code whole fraction := by
  by_cases none : code.val = 0
  · have first : code = ⟨0, by decide⟩ := Fin.ext none
    subst first
    exact ⟨['0'], [], rfl, by simp, digits_zeros 1, by simp [Digits], fun _ => rfl⟩
  · have digits : Digits (Decimal.shortest .up code).digits := digits_toDigits _
    obtain ⟨whole, fraction, placed⟩ := Decimal.exists_placed digits (Decimal.digits_ne_nil _)
      (Decimal.shortest .up code).point
    refine ⟨whole, fraction, ?_, placed.some, placed.wholeDigits, placed.fractionDigits, ?_⟩
    · rw [plainMagnitude, if_neg none]
      exact placed.text
    · intro negative
      have read := placed.number negative 0
      rw [Decimal.natOfDigits_digits, Decimal.point_sub_length, Int.add_zero] at read
      exact read.trans (Decimal.toBinary_shortest negative .up code)

end Binary64

namespace Numeral

open Binary64

theorem readBinary?_of_digit (negative : Bool) {c : Char} (digit : c.isDigit = true)
    (cs : List Char) :
    readBinary? (String.ofList (signChars negative ++ c :: cs)) =
      (readDecimal? (c :: cs)).map (Decimal.toBinary negative) := by
  have sign : splitSign (signChars negative ++ c :: cs) = (negative, c :: cs) := by
    cases negative with
    | true => rfl
    | false => exact splitSign_digit digit cs
  -- The names of the infinities and of NaN start with letters.
  have unnamed : ∀ name : String, (∀ d ∈ name.toList.head?, d.isDigit = false) →
      String.ofList ((c :: cs).map Char.toLower) ≠ name := by
    rintro name letter rfl
    rw [String.toList_ofList, List.map_cons, toLower_of_isDigit digit] at letter
    have := letter c rfl
    rw [digit] at this
    cases this
  have finite : ¬(String.ofList ((c :: cs).map Char.toLower) = "inf" ∨
      String.ofList ((c :: cs).map Char.toLower) = "infinity") :=
    not_or.mpr ⟨unnamed "inf" (by simp), unnamed "infinity" (by simp)⟩
  unfold readBinary?
  rw [String.toList_ofList, sign]
  simp only
  rw [if_neg finite, if_neg (unnamed "nan" (by simp))]

/-- The text of a number is read as this number. -/
theorem readBinary?_toText (x : Binary64) : readBinary? x.toText = some x := by
  cases x with
  | nan => decide
  | infinite negative => cases negative <;> decide
  | finite negative code =>
    obtain ⟨whole, fraction, parts⟩ := exists_plainParts code
    cases whole with
    | nil => exact absurd rfl parts.some
    | cons c cs =>
      have digit := parts.wholeDigits c List.mem_cons_self
      have read := readBinary?_of_digit negative digit (cs ++ fractionText fraction)
      have decimal := readDecimal?_plainText parts.some parts.wholeDigits parts.fractionDigits
      rw [toText, parts.text]
      rw [plainText, List.cons_append] at decimal ⊢
      rw [read, decimal, Option.map_some, parts.number]

theorem isBlank_toText (x : Binary64) : ∀ c ∈ x.toText.toList, Text.isBlank c = false := by
  cases x with
  | nan => simp [toText, Text.isBlank]
  | infinite negative => cases negative <;> simp [toText, Text.isBlank]
  | finite negative code =>
    obtain ⟨whole, fraction, parts⟩ := exists_plainParts code
    have sign : ∀ c ∈ signChars negative, Text.isBlank c = false := by
      cases negative <;> simp [signChars, Text.isBlank]
    have point : ∀ c ∈ fractionText fraction, Text.isBlank c = false := by
      cases fraction with
      | nil => simp [fractionText]
      | cons d ds =>
        intro c mem
        rcases List.mem_cons.mp mem with rfl | mem
        · rfl
        · exact isBlank_of_isDigit (parts.fractionDigits c mem)
    intro c mem
    rw [toText, parts.text, String.toList_ofList, plainText] at mem
    rcases List.mem_append.mp mem with mem | mem
    · exact sign c mem
    · rcases List.mem_append.mp mem with mem | mem
      · exact isBlank_of_isDigit (parts.wholeDigits c mem)
      · exact point c mem

theorem withSign_natAbs (n : Int) : withSign (n < 0) n.natAbs = n := by
  by_cases negative : n < 0
  · rw [decide_eq_true negative, withSign, if_pos rfl]
    omega
  · rw [decide_eq_false negative, withSign, if_neg Bool.false_ne_true]
    omega

theorem readInt?_intChars (n : Int) : readInt? (String.ofList (Json.intChars n)) = some n := by
  have digits := digits_toDigits n.natAbs
  unfold readInt? Json.intChars
  rw [String.toList_ofList, splitSign_signChars _ Nat.toDigits_ne_nil digits]
  simp only
  rw [readDigits?_eq_some Nat.toDigits_ne_nil digits, natOfDigits_toDigits, Option.map_some,
    withSign_natAbs]

/-- Read as a binary number, the digits of an integer give the number nearest to it. -/
theorem readBinary?_intChars (n : Int) :
    readBinary? (String.ofList (Json.intChars n)) = some (ofInt n) := by
  have digits := digits_toDigits n.natAbs
  have none : Digits [] := by simp [Digits]
  have decimal := readDecimal?_plainText Nat.toDigits_ne_nil digits none
  have exponent : (decimalOf (Nat.toDigits 10 n.natAbs) [] 0).exponent = 0 := rfl
  have number : (decimalOf (Nat.toDigits 10 n.natAbs) [] 0).toBinary (n < 0) = ofInt n := by
    rw [Decimal.toBinary_eq, ofInt, ofNat, Decimal.numerator_of_nonpos (Int.le_of_eq exponent),
      Decimal.denominator_of_nonneg (Int.le_of_eq exponent.symm), decimalOf, List.append_nil,
      natOfDigits_toDigits]
  rw [plainText, fractionText, List.append_nil] at decimal
  cases shape : Nat.toDigits 10 n.natAbs with
  | nil => exact absurd shape Nat.toDigits_ne_nil
  | cons c cs =>
    rw [shape] at digits decimal number
    rw [Json.intChars, shape, readBinary?_of_digit _ (digits c List.mem_cons_self), decimal,
      Option.map_some, number]

theorem isBlank_intChars (n : Int) : ∀ c ∈ Json.intChars n, Text.isBlank c = false := by
  intro c mem
  rcases List.mem_append.mp mem with mem | mem
  · by_cases negative : n < 0
    · simp [signChars, negative] at mem
      rw [mem]
      rfl
    · simp [signChars, negative] at mem
  · exact isBlank_of_isDigit (digits_toDigits _ c mem)

theorem readInt64?_intChars (n : Int64) :
    readInt64? (String.ofList (Json.intChars n.toInt)) = some n := by
  unfold readInt64?
  rw [readInt?_intChars]
  simp only
  rw [if_pos ⟨Int64.minValue_le_toInt n, Int64.toInt_le n⟩, Int64.ofInt_toInt]

end Numeral

end FlatRecord
