import FlatRecord.Power

namespace FlatRecord

/-- The finite magnitudes of the 64-bit binary format: 2047 exponents of 2^52 fractions each. -/
abbrev Binary64.magnitudes : Nat := 2047 * twoTo 52

/-- A number of the 64-bit binary format. The code of a finite number is its exponent and
fraction fields read as one number, so codes rise with magnitudes. All NaNs are one value. -/
inductive Binary64 where
  | nan
  | infinite (negative : Bool)
  | finite (negative : Bool) (code : Fin Binary64.magnitudes)
deriving DecidableEq

namespace Binary64

/-- The significand of a code whose fraction field has the given width. -/
def mantissa (width code : Nat) : Nat :=
  if code < twoTo width then code else twoTo width + code % twoTo width

/-- The power of two that scales the significand of a code; the two lowest exponents share it. -/
def shift (width code : Nat) : Nat := code / twoTo width - 1

/-- The value of a code, counted in the smallest positive magnitude. -/
def unitsOf (width code : Nat) : Nat := mantissa width code * twoTo (shift width code)

/-- The fraction field of the 64-bit format has 52 bits. -/
abbrev fractionBits : Nat := 52

/-- One is 2^1074 times the smallest positive magnitude. -/
abbrev unitsPerOne : Nat := twoTo 1074

def zero (negative : Bool) : Binary64 := .finite negative ⟨0, by decide⟩

instance : Inhabited Binary64 := ⟨zero false⟩

/-- The exact value of a finite number in units of 2^-1074, without its sign. -/
def units (code : Fin magnitudes) : Nat := unitsOf fractionBits code.val

def withSign (negative : Bool) (n : Nat) : Int := if negative then -(n : Int) else n

def signedUnits? : Binary64 → Option Int
  | .finite negative code => some (withSign negative (units code))
  | _ => none

def isFinite : Binary64 → Bool
  | .finite _ _ => true
  | _ => false

/-- A position on the number line: infinities lie beyond every finite code, NaN nowhere. -/
def rank? : Binary64 → Option Int
  | .nan => none
  | .infinite negative => some (withSign negative magnitudes)
  | .finite negative code => some (withSign negative code.val)

/-- The numeric order, in which both zeros are equal and NaN has no place. -/
def compare? (x y : Binary64) : Option Ordering :=
  match x.rank?, y.rank? with
  | some a, some b => some (if a < b then .lt else if a = b then .eq else .gt)
  | _, _ => none

/-- Numeric equality: both zeros are equal and NaN differs from everything. -/
def numEq (x y : Binary64) : Bool := x.compare? y == some .eq

def neg : Binary64 → Binary64
  | .nan => .nan
  | .infinite negative => .infinite !negative
  | .finite negative code => .finite (!negative) code

def truncate? (x : Binary64) : Option Int :=
  x.signedUnits?.map fun u => u.tdiv unitsPerOne

end Binary64

end FlatRecord
