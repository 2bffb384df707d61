import FlatRecord.Binary64.Basic

namespace FlatRecord

namespace Binary64

/-- The whole number nearest to a quotient; of two equally near the even one. -/
def roundHalfEven (num den : Nat) : Nat :=
  let q := num / den
  let twice := 2 * (num % den)
  if den < twice ∨ (twice = den ∧ q % 2 = 1) then q + 1 else q

/-- The code nearest to `num / den` smallest magnitudes, for a fraction field of the given
width. A quotient that rounds up to the next power of two carries into the exponent. -/
def roundCode (width num den : Nat) : Nat :=
  let scale := Nat.log2 (num / den) - width
  scale * twoTo width + roundHalfEven num (den * twoTo scale)

/-- The number nearest to `num / den` in units of 2^-1074; beyond the largest, infinity. -/
def ofUnits (negative : Bool) (num den : Nat) : Binary64 :=
  let code := roundCode fractionBits num den
  if h : code < magnitudes then .finite negative ⟨code, h⟩ else .infinite negative

def ofNat (negative : Bool) (n : Nat) : Binary64 := ofUnits negative (n * unitsPerOne) 1

def ofInt (n : Int) : Binary64 := ofNat (n < 0) n.natAbs

/-- The nearest number of the 32-bit format, which has 23 fraction bits, 255 exponents and the
smallest magnitude 2^-149. -/
def toSingle : Binary64 → Binary64
  | .finite negative code =>
    let single := roundCode 23 (units code) (twoTo 925)
    if single < 255 * twoTo 23 then ofUnits negative (unitsOf 23 single * twoTo 925) 1
    else .infinite negative
  | x => x

end Binary64

end FlatRecord
