import FlatRecord.Cell
import FlatRecord.Proofs.Value.JsonText

namespace FlatRecord

theorem Numeral.readBinary?_of_bracket {s : String} (first : s.toList.head? = some '[') :
    readBinary? s = none := by
  obtain ⟨cs, text⟩ := List.head?_eq_some_iff.mp first
  have sign : splitSign ('[' :: cs) = (false, '[' :: cs) := rfl
  have decimal : readDecimal? ('[' :: cs) = none := by
    simp [readDecimal?, List.span_eq_takeWhile_dropWhile, splitFraction]
  have unnamed : ∀ name : String, name.toList.head? ≠ some '[' →
      String.ofList (('[' :: cs).map Char.toLower) ≠ name := by
    rintro name other rfl
    exact other (by simp)
  unfold readBinary?
  rw [text, sign]
  simp only
  rw [if_neg (not_or.mpr ⟨unnamed "inf" (by decide), unnamed "infinity" (by decide)⟩),
    if_neg (unnamed "nan" (by decide)), decimal, Option.map_none]

/-- A text between square brackets, such as that of an array. -/
structure Bracketed (s : String) : Prop where
  first : s.toList.head? = some '['
  last : s.toList.getLast? = some ']'

namespace Bracketed

variable {s : String} (bracketed : Bracketed s)
include bracketed

theorem exists_cons : ∃ cs, s.toList = '[' :: cs := by
  obtain ⟨rest, eq⟩ := List.head?_eq_some_iff.mp bracketed.first
  exact ⟨rest, eq⟩

theorem trim_eq : Text.trim s = s := by
  rw [Text.trim, Text.trimChars_of_ends, String.ofList_toList]
  · rw [bracketed.first]
    intro c mem
    cases mem
    rfl
  · rw [bracketed.last]
    intro c mem
    cases mem
    rfl

theorem readInt64?_eq_none : Numeral.readInt64? s = none := by
  obtain ⟨cs, text⟩ := bracketed.exists_cons
  have sign : Numeral.splitSign ('[' :: cs) = (false, '[' :: cs) := rfl
  have digits : Numeral.readDigits? ('[' :: cs) = none := by simp [Numeral.readDigits?]
  simp [Numeral.readInt64?, Numeral.readInt?, text, sign, digits]

theorem readBinary?_eq_none : Numeral.readBinary? s = none :=
  Numeral.readBinary?_of_bracket bracketed.first

theorem readBool?_eq_none : Value.readBool? s = none := by
  obtain ⟨cs, text⟩ := bracketed.exists_cons
  have head : (Text.lowerAscii s).toList.head? = some '[' := by
    simp [Text.lowerAscii, text]
  have absent : ∀ words : List String, (∀ word ∈ words, word.toList.head? ≠ some '[') →
      Text.lowerAscii s ∉ words := fun words other mem => other _ mem head
  unfold Value.readBool?
  rw [bracketed.trim_eq]
  simp only
  rw [if_neg (absent ["true", "1", "yes", "t"] (by decide)),
    if_neg (absent ["false", "0", "no", "f", ""] (by decide))]

theorem toInt64_eq : (Value.string s).toInt64 = .error (.notNumeric s .int64) := by
  unfold Value.toInt64
  simp only [bracketed.trim_eq, bracketed.readInt64?_eq_none, bracketed.readBinary?_eq_none,
    Option.bind_none]

theorem toFloat_eq : (Value.string s).toFloat = .error (.notNumeric s .float64) := by
  unfold Value.toFloat
  simp only [bracketed.trim_eq, bracketed.readBinary?_eq_none]

theorem toBool_eq : (Value.string s).toBool = .error (.notBool s) := by
  unfold Value.toBool
  simp only [bracketed.readBool?_eq_none]

/-- No declared type makes anything else of such a text. -/
theorem coerced_eq (type : FieldType) : Cell.coerced (.string s) type = .string s := by
  have present : (Value.string s).isNull = false := rfl
  unfold Cell.coerced Value.coerce
  rw [if_neg (by simp [present])]
  cases type with
  | int =>
    simp only [bracketed.toInt64_eq]
    rfl
  | float =>
    simp only [bracketed.toFloat_eq]
    rfl
  | bool =>
    simp only [bracketed.toBool_eq]
    rfl
  | string => rfl
  | other name => rfl

end Bracketed

namespace Value

theorem bracketed_jsonText (items : List Value) : Bracketed (array items).jsonText := by
  have text : (array items).jsonText.toList =
      '[' :: (Json.commaSeparated (Json.itemChars (toJsonItems items)) ++ [']']) := by
    rw [jsonText, Json.render, String.toList_ofList]
    rfl
  constructor
  · rw [text]
    rfl
  · rw [text, ← List.cons_append, List.getLast?_concat]

/-- The items of an array are found in its text. -/
theorem elements?_jsonText {items : List Value} (ordered : (array items).Ordered)
    (finite : (array items).Finite) (fits : (array items).nesting ≤ Json.maxLevels) :
    (string (array items).jsonText).elements? = some items := by
  rw [elements?, if_pos (bracketed_jsonText items).first, readJson?_jsonText ordered fits,
    printed_of_finite _ finite]
  rfl

end Value

end FlatRecord
