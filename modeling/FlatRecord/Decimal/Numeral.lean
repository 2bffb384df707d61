import FlatRecord.Decimal.Basic

namespace FlatRecord

namespace Numeral

/-- An optional sign and what follows it; the flag tells a minus. -/
def splitSign : List Char → Bool × List Char
  | '-' :: rest => (true, rest)
  | '+' :: rest => (false, rest)
  | cs => (false, cs)

def natOfDigits (ds : List Char) : Nat := Nat.ofDigitChars 10 ds 0

/-- A text of at least one digit and nothing else. -/
def readDigits? (cs : List Char) : Option Nat :=
  if !cs.isEmpty && cs.all Char.isDigit then some (natOfDigits cs) else none

/-- A whole number in digits with an optional sign. -/
def readInt? (s : String) : Option Int :=
  match splitSign s.toList with
  | (negative, digits) => (readDigits? digits).map (Binary64.withSign negative)

/-- A whole number that the 64-bit signed integers hold. -/
def readInt64? (s : String) : Option Int64 :=
  match readInt? s with
  | some n =>
    if Int64.minValue.toInt ≤ n ∧ n ≤ Int64.maxValue.toInt then some (Int64.ofInt n) else none
  | none => none

/-- The digits after a point, if there is one, and what follows them. -/
def splitFraction : List Char → List Char × List Char
  | '.' :: rest => rest.span Char.isDigit
  | cs => ([], cs)

/-- A power of ten after `e` or `E`; a text without one has the power zero. -/
def readPower? : List Char → Option Int
  | [] => some 0
  | c :: rest =>
    if c = 'e' ∨ c = 'E' then
      match splitSign rest with
      | (negative, digits) => (readDigits? digits).map (Binary64.withSign negative)
    else none

/-- The decimal that digits before and after a point and a power of ten spell. -/
def decimalOf (whole fraction : List Char) (power : Int) : Decimal :=
  ⟨natOfDigits (whole ++ fraction), power - fraction.length⟩

/-- An unsigned number: digits with an optional point among or around them and an optional
power of ten. -/
def readDecimal? (cs : List Char) : Option Decimal :=
  match cs.span Char.isDigit with
  | (whole, rest) =>
    match splitFraction rest with
    | (fraction, rest) =>
      if whole.isEmpty && fraction.isEmpty then none
      else (readPower? rest).map (decimalOf whole fraction)

/-- A signed number, or the name of an infinity or of NaN in any letter case. -/
def readBinary? (s : String) : Option Binary64 :=
  match splitSign s.toList with
  | (negative, body) =>
    let name := String.ofList (body.map Char.toLower)
    if name = "inf" ∨ name = "infinity" then some (.infinite negative)
    else if name = "nan" then some .nan
    else (readDecimal? body).map (Decimal.toBinary negative)

end Numeral

end FlatRecord
