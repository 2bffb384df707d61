import FlatRecord.Proofs.Decimal.Text
import FlatRecord.Proofs.Flat.Leaves
import FlatRecord.Value.Convert

namespace FlatRecord

namespace Value

theorem trim_text_int (n : Int64) : Text.trim (int n).text = (int n).text := by
  apply Text.trim_of_solid
  rw [text, String.toList_ofList]
  exact Numeral.isBlank_intChars n.toInt

theorem toInt64_text (n : Int64) : (string (int n).text).toInt64 = .ok n := by
  unfold toInt64
  simp only [trim_text_int]
  rw [text, Numeral.readInt64?_intChars]

theorem toFloat_text_int (n : Int64) :
    (string (int n).text).toFloat = .ok (.ofInt n.toInt) := by
  unfold toFloat
  simp only [trim_text_int]
  rw [text, Numeral.readBinary?_intChars]

theorem trim_text_float (x : Binary64) : Text.trim (float x).text = (float x).text :=
  Text.trim_of_solid (Numeral.isBlank_toText x)

theorem toFloat_text (x : Binary64) : (string (float x).text).toFloat = .ok x := by
  unfold toFloat
  simp only [trim_text_float]
  rw [text, Numeral.readBinary?_toText]

theorem toBool_text (b : Bool) : (string (bool b).text).toBool = .ok b := by
  cases b <;> rfl

/-- The values of a type that is known. -/
inductive OfType : FieldType → Value → Prop
  | int (n : Int64) : OfType .int (.int n)
  | float (x : Binary64) : OfType .float (.float x)
  | string (s : String) : OfType .string (.string s)
  | bool (b : Bool) : OfType .bool (.bool b)

theorem ofType_of_coerce {raw v : Value} {type : FieldType} (known : type.isKnown)
    (present : raw.isNull = false) (done : raw.coerce type = .ok v) : OfType type v := by
  unfold coerce at done
  rw [if_neg (by simp [present])] at done
  cases type with
  | int =>
    cases result : raw.toInt64 with
    | ok n =>
      rw [result] at done
      cases done
      exact .int n
    | error e =>
      rw [result] at done
      cases done
  | float =>
    cases result : raw.toFloat with
    | ok x =>
      rw [result] at done
      cases done
      exact .float x
    | error e =>
      rw [result] at done
      cases done
  | string =>
    cases done
    exact .string raw.text
  | bool =>
    cases result : raw.toBool with
    | ok b =>
      rw [result] at done
      cases done
      exact .bool b
    | error e =>
      rw [result] at done
      cases done
  | other name => cases known

/-- The text of a value of a known type has just this value as that type. -/
theorem coerce_text {v : Value} {type : FieldType} (h : OfType type v) :
    (string v.text).coerce type = .ok v := by
  unfold coerce
  rw [if_neg (by simp [isNull])]
  cases h with
  | int n =>
    simp only [toInt64_text]
    rfl
  | float x =>
    simp only [toFloat_text]
    rfl
  | string s => rfl
  | bool b =>
    simp only [toBool_text]
    rfl

/-- What has no reading as a type has none from its text either. -/
theorem coerce_text_error {raw : Value} {type : FieldType} {e : ConversionError}
    (flat : raw.isContainer = false) (failed : raw.coerce type = .error e) :
    (string raw.text).coerce type = .error e := by
  cases raw with
  | string s => exact failed
  | array items => cases flat
  | object entries => cases flat
  | float x =>
    cases type with
    | int =>
      cases x with
      | finite negative code => cases failed
      | nan => exact failed
      | infinite negative => cases negative <;> exact failed
    | _ => cases failed
  | _ => cases type <;> cases failed

end Value

end FlatRecord
