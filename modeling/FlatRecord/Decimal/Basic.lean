import FlatRecord.Binary64.Rounding

namespace FlatRecord

/-- The number `coefficient * 10 ^ exponent`. -/
structure Decimal where
  coefficient : Nat
  exponent : Int
deriving DecidableEq

namespace Decimal

/-- The nearest binary number. Exponents far outside the binary range are settled without
forming the power: 10^400 overflows, and a coefficient is below `10 ^ (log2 + 1)`. -/
def toBinary (negative : Bool) (d : Decimal) : Binary64 :=
  if d.coefficient = 0 then .zero negative
  else if 400 ≤ d.exponent then .infinite negative
  else if d.exponent + d.coefficient.log2 + 401 ≤ 0 then .zero negative
  else if 0 ≤ d.exponent then
    .ofNat negative (d.coefficient * tenTo d.exponent.toNat)
  else
    .ofUnits negative (d.coefficient * Binary64.unitsPerOne) (tenTo (-d.exponent).toNat)

/-- Moves trailing zeros of the coefficient into the exponent, at most `fuel` of them. -/
def stripZeros : Nat → Decimal → Decimal
  | 0, d => d
  | fuel + 1, d =>
    if d.coefficient ≠ 0 ∧ d.coefficient % 10 = 0 then
      stripZeros fuel ⟨d.coefficient / 10, d.exponent + 1⟩
    else d

end Decimal

end FlatRecord
