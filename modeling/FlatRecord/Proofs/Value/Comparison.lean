import FlatRecord.Proofs.Value.Integers
import FlatRecord.Proofs.Value.Reread

namespace FlatRecord

namespace Binary64

theorem compare?_swap (x y : Binary64) : y.compare? x = (x.compare? y).map Ordering.swap := by
  rw [compare?, compare?]
  cases x.rank? with
  | none => cases y.rank? <;> rfl
  | some m =>
    cases y.rank? with
    | none => rfl
    | some n =>
      exact congrArg some (compareOfLessAndEq_eq_swap Int.le_antisymm Int.le_total Int.not_le)

theorem numEq_comm (x y : Binary64) : x.numEq y = y.numEq x := by
  rw [numEq, numEq, compare?_swap y x]
  cases y.compare? x with
  | none => rfl
  | some place => cases place <;> rfl

theorem exists_rank? {x : Binary64} (number : x ≠ nan) : ∃ n, x.rank? = some n := by
  cases x with
  | nan => exact absurd rfl number
  | infinite negative => exact ⟨_, rfl⟩
  | finite negative code => exact ⟨_, rfl⟩

theorem numEq_self {x : Binary64} (number : x ≠ nan) : x.numEq x = true := by
  obtain ⟨n, rank⟩ := exists_rank? number
  rw [numEq, compare?_of_rank? rank rank]
  simp

theorem exists_compare? {x y : Binary64} (left : x ≠ nan) (right : y ≠ nan) :
    ∃ place, x.compare? y = some place ∧ x.numEq y = (place == .eq) := by
  obtain ⟨m, rankLeft⟩ := exists_rank? left
  obtain ⟨n, rankRight⟩ := exists_rank? right
  refine ⟨_, compare?_of_rank? rankLeft rankRight, ?_⟩
  rw [numEq, compare?_of_rank? rankLeft rankRight]
  rfl

end Binary64

namespace Value

mutual

theorem same_comm (v w : Value) : v.same w = w.same v := by
  cases v with
  | array xs =>
    cases w with
    | array ys => exact sameItems_comm xs ys
    | _ => rfl
  | object es =>
    cases w with
    | object fs => exact sameEntries_comm es fs
    | _ => rfl
  | float x =>
    cases w with
    | float y => exact Binary64.numEq_comm x y
    | _ => rfl
  | null => cases w <;> rfl
  | bool b =>
    cases w with
    | bool c => exact Bool.beq_comm
    | _ => rfl
  | int m =>
    cases w with
    | int n => exact BEq.comm
    | _ => rfl
  | string s =>
    cases w with
    | string t => exact BEq.comm
    | _ => rfl
termination_by structural v

theorem sameItems_comm (xs ys : List Value) : sameItems xs ys = sameItems ys xs := by
  cases xs with
  | nil => cases ys <;> rfl
  | cons x xs =>
    cases ys with
    | nil => rfl
    | cons y ys => rw [sameItems, sameItems, same_comm x y, sameItems_comm xs ys]
termination_by structural xs

theorem sameEntries_comm (es fs : List (String × Value)) :
    sameEntries es fs = sameEntries fs es := by
  cases es with
  | nil => cases fs <;> rfl
  | cons e es =>
    cases fs with
    | nil => rfl
    | cons f fs =>
      obtain ⟨j, x⟩ := e
      obtain ⟨k, y⟩ := f
      rw [sameEntries, sameEntries, same_comm x y, sameEntries_comm es fs, BEq.comm (a := j)]
termination_by structural es

end

theorem bothNumeric?_swap (a b : Value) :
    bothNumeric? b a = (bothNumeric? a b).map Prod.swap := by
  rw [bothNumeric?, bothNumeric?]
  cases a.toFloat <;> cases b.toFloat <;> rfl

theorem equal_comm (a b : Value) : a.equal b = b.equal a := by
  rw [equal, equal, bothNumeric?_swap a b, same_comm a b, Bool.or_comm a.isNull,
    Bool.and_comm a.isNull, BEq.comm (a := a.text)]
  cases bothNumeric? a b with
  | none => rfl
  | some pair =>
    obtain ⟨x, y⟩ := pair
    simp only [Option.map_some, Prod.swap_prod_mk, Binary64.numEq_comm x y]

/-- A value has a text that is equal to itself, whatever its contents. -/
theorem equal_self (a : Value) : a.equal a = true := by
  cases none : a.isNull <;> simp [equal, none]

theorem order?_swap (a b : Value) : order? b a = (order? a b).map Ordering.swap := by
  rw [order?, order?, bothNumeric?_swap a b]
  cases bothNumeric? a b with
  | some pair => exact Binary64.compare?_swap pair.1 pair.2
  | none =>
    exact congrArg some
      (compareOfLessAndEq_eq_swap String.le_antisymm String.le_total String.not_le)

/-- Scalars of the same content are one value, except that floats may be zeros of both signs. -/
theorem eq_or_floats_of_same {a b : Value} (scalar : a.isContainer = false)
    (same : a.same b = true) : a = b ∨ ∃ x y, a = .float x ∧ b = .float y := by
  cases a with
  | array items => cases scalar
  | object entries => cases scalar
  | float x =>
    cases b with
    | float y => exact .inr ⟨x, y, rfl, rfl⟩
    | _ => cases same
  | null =>
    cases b with
    | null => exact .inl rfl
    | _ => cases same
  | bool p =>
    cases b with
    | bool q => exact .inl (congrArg bool (eq_of_beq same))
    | _ => cases same
  | int m =>
    cases b with
    | int n => exact .inl (congrArg int (eq_of_beq same))
    | _ => cases same
  | string s =>
    cases b with
    | string t => exact .inl (congrArg string (eq_of_beq same))
    | _ => cases same

theorem bothNumeric?_eq_some_iff {a b : Value} {x y : Binary64} :
    bothNumeric? a b = some (x, y) ↔ a.toFloat = .ok x ∧ b.toFloat = .ok y := by
  rw [bothNumeric?]
  cases a.toFloat <;> cases b.toFloat <;> simp

/-- Scalars are equal by their numeric readings or by their texts: equality of contents adds
nothing to these. -/
theorem equal_iff_of_scalar {a b : Value} (present : a.isNull = false)
    (scalar : a.isContainer = false) :
    a.equal b = true ↔ b.isNull = false ∧
      ((∃ x y, a.toFloat = .ok x ∧ b.toFloat = .ok y ∧ x.numEq y = true) ∨ a.text = b.text) := by
  have numbers : ((bothNumeric? a b).any fun pair => pair.1.numEq pair.2) = true ↔
      ∃ x y, a.toFloat = .ok x ∧ b.toFloat = .ok y ∧ x.numEq y = true := by
    rw [bothNumeric?]
    cases a.toFloat <;> cases b.toFloat <;> simp
  cases none : b.isNull with
  | true => simp [equal, present, none]
  | false =>
    have whole : a.equal b = (a.same b || (bothNumeric? a b).any (fun pair => pair.1.numEq pair.2)
        || a.text == b.text) := by
      rw [equal, present, none, Bool.or_false, if_neg Bool.false_ne_true]
      cases bothNumeric? a b <;> rfl
    rw [whole, Bool.or_eq_true, Bool.or_eq_true, beq_iff_eq, numbers]
    constructor
    · rintro ((same | equal) | text)
      · rcases eq_or_floats_of_same scalar same with rfl | ⟨x, y, rfl, rfl⟩
        · exact ⟨rfl, .inr rfl⟩
        · exact ⟨rfl, .inl ⟨x, y, rfl, rfl, same⟩⟩
      · exact ⟨rfl, .inl equal⟩
      · exact ⟨rfl, .inr text⟩
    · rintro ⟨-, equal | text⟩
      · exact .inl (.inr equal)
      · exact .inr text

/-- The text of a number is read as this number. -/
theorem toFloat_text_of_isNumber {n : Value} (number : n.isNumber = true) :
    (string n.text).toFloat = n.toFloat := by
  cases n with
  | int n => exact toFloat_text_int n
  | float x => exact toFloat_text x
  | _ => cases number

theorem toFloat_text_bool (b : Bool) :
    (string (bool b).text).toFloat = .error (.notNumeric (bool b).text .float64) := by
  cases b <;> decide

/-- The values that have a place in the order: not null, no container and not read as NaN. -/
structure Orderable (v : Value) : Prop where
  present : v.isNull = false
  scalar : v.isContainer = false
  number : v.toFloat ≠ .ok .nan

theorem Orderable.toFloat_text {v : Value} (h : Orderable v) :
    (∃ b, v = .bool b) ∨ (string v.text).toFloat = v.toFloat := by
  cases v with
  | null => cases h.present
  | array items => cases h.scalar
  | object entries => cases h.scalar
  | bool b => exact .inl ⟨b, rfl⟩
  | string s => exact .inr rfl
  | _ => exact .inr (toFloat_text_of_isNumber rfl)

section Orderable

variable {a b : Value} (left : Orderable a) (right : Orderable b)
include left right

/-- The words of the truth values are no numbers, so that a text has one reading at most. -/
theorem toFloat_eq_of_text_eq {x y : Binary64} (text : a.text = b.text)
    (readLeft : a.toFloat = .ok x) (readRight : b.toFloat = .ok y) : x = y := by
  rcases left.toFloat_text with ⟨p, rfl⟩ | fromLeft
  · rcases right.toFloat_text with ⟨q, rfl⟩ | fromRight
    · have same : p = q := by
        cases p <;> cases q <;> first | rfl | exact absurd text (by decide)
      rw [same, readRight] at readLeft
      exact (Except.ok.inj readLeft).symm
    · rw [← text, toFloat_text_bool, readRight] at fromRight
      cases fromRight
  · rcases right.toFloat_text with ⟨q, rfl⟩ | fromRight
    · rw [text, toFloat_text_bool, readLeft] at fromLeft
      cases fromLeft
    · rw [text, fromRight, readLeft, readRight] at fromLeft
      exact (Except.ok.inj fromLeft).symm

theorem equal_of_numbers {x y : Binary64} (readLeft : a.toFloat = .ok x)
    (readRight : b.toFloat = .ok y) : a.equal b = x.numEq y := by
  rw [Bool.eq_iff_iff, equal_iff_of_scalar left.present left.scalar]
  constructor
  · rintro ⟨-, ⟨x', y', fromLeft, fromRight, equal⟩ | text⟩
    · rw [readLeft] at fromLeft
      rw [readRight] at fromRight
      cases fromLeft
      cases fromRight
      exact equal
    · rw [← toFloat_eq_of_text_eq left right text readLeft readRight]
      exact Binary64.numEq_self fun nan => left.number (nan ▸ readLeft)
  · exact fun equal => ⟨right.present, .inl ⟨x, y, readLeft, readRight, equal⟩⟩

theorem equal_of_texts (texts : bothNumeric? a b = none) :
    a.equal b = (a.text == b.text) := by
  rw [Bool.eq_iff_iff, equal_iff_of_scalar left.present left.scalar, beq_iff_eq]
  constructor
  · rintro ⟨-, ⟨x, y, readLeft, readRight, -⟩ | text⟩
    · rw [bothNumeric?_eq_some_iff.mpr ⟨readLeft, readRight⟩] at texts
      cases texts
    · exact text
  · exact fun text => ⟨right.present, .inr text⟩

/-- Ordering knows a pair to be equal just if equality does. -/
theorem exists_order? : ∃ place, order? a b = some place ∧ a.equal b = (place == .eq) := by
  cases pair : bothNumeric? a b with
  | some numbers =>
    obtain ⟨readLeft, readRight⟩ := bothNumeric?_eq_some_iff.mp pair
    obtain ⟨place, order, same⟩ := Binary64.exists_compare?
      (fun nan => left.number (nan ▸ readLeft)) (fun nan => right.number (nan ▸ readRight))
    refine ⟨place, ?_, (equal_of_numbers left right readLeft readRight).trans same⟩
    rw [order?, pair]
    exact order
  | none =>
    refine ⟨compareOfLessAndEq a.text b.text, ?_, ?_⟩
    · rw [order?, pair]
      rfl
    · rw [equal_of_texts left right pair, Bool.eq_iff_iff, beq_iff_eq, beq_iff_eq,
        compareOfLessAndEq_eq_eq String.le_refl String.not_le]

end Orderable

/-- The comparisons agree with each other: equality is reflexive and symmetric, the orders are each
other's converse and exclude one another, and of two values with a place in the order one is less,
equal or greater, with the weak orders in between. -/
theorem compare_coherent (a b : Value) :
    (compare .eq a a = .ok true ∧ compare .eq a b = compare .eq b a) ∧
    (compare .gt a b = compare .lt b a ∧ compare .ge a b = compare .le b a) ∧
    ¬(compare .gt a b = .ok true ∧ compare .lt a b = .ok true) ∧
    (Orderable a → Orderable b →
      (∃! op, op ∈ [Operator.lt, .eq, .gt] ∧ compare op a b = .ok true) ∧
      (compare .ge a b = .ok true ↔ compare .gt a b = .ok true ∨ compare .eq a b = .ok true) ∧
      (compare .le a b = .ok true ↔ compare .lt a b = .ok true ∨ compare .eq a b = .ok true)) := by
  refine ⟨⟨?reflexive, ?symmetric⟩, ⟨?converse, ?weak⟩, ?exclusive, ?total⟩
  case reflexive => rw [compare, equal_self]
  case symmetric => rw [compare, compare, equal_comm]
  case converse =>
    rw [compare, compare, order?_swap a b]
    rcases order? a b with _ | _ | _ | _ <;> rfl
  case weak =>
    rw [compare, compare, order?_swap a b]
    rcases order? a b with _ | _ | _ | _ <;> rfl
  case exclusive =>
    rw [compare, compare]
    rcases order? a b with _ | _ | _ | _ <;> simp
  case total =>
    intro left right
    obtain ⟨place, order, equal⟩ := exists_order? left right
    cases place with
    | lt => refine ⟨⟨.lt, ?_, ?_⟩, ?_, ?_⟩ <;> simp [compare, order, equal]
    | eq => refine ⟨⟨.eq, ?_, ?_⟩, ?_, ?_⟩ <;> simp [compare, order, equal]
    | gt => refine ⟨⟨.gt, ?_, ?_⟩, ?_, ?_⟩ <;> simp [compare, order, equal]

/-- A truth value, and the number one as a padded text. -/
theorem compare_coherent_padded :
    Orderable (.bool true) ∧ Orderable (.string " 1.0 ") ∧
    compare .eq (.bool true) (.string " 1.0 ") = .ok true ∧
    compare .ge (.bool true) (.string " 1.0 ") = .ok true ∧
    ¬compare .lt (.bool true) (.string " 1.0 ") = .ok true := by
  have read : Numeral.readBinary? (Text.trim " 1.0 ") = some (.ofInt 1) := by decide +kernel
  have one : Binary64.ofInt 1 ≠ .nan := by decide +kernel
  have truth : Orderable (.bool true) := ⟨rfl, rfl, fun nan => one (Except.ok.inj nan)⟩
  have padded : Orderable (.string " 1.0 ") := by
    refine ⟨rfl, rfl, ?_⟩
    rw [toFloat, read]
    exact fun nan => one (Except.ok.inj nan)
  have equal : compare .eq (.bool true) (.string " 1.0 ") = .ok true :=
    congrArg Except.ok (by decide +kernel)
  obtain ⟨-, -, -, total⟩ := compare_coherent (.bool true) (.string " 1.0 ")
  obtain ⟨single, weak, -⟩ := total truth padded
  refine ⟨truth, padded, equal, weak.mpr (.inr equal), ?_⟩
  intro less
  exact absurd (single.unique ⟨by decide, less⟩ ⟨by decide, equal⟩) (by decide)

end Value

end FlatRecord
