import FlatRecord.Decimal.Shortest

namespace FlatRecord

namespace Decimal

def zeros (n : Nat) : List Char := List.replicate n '0'

/-- Digits with a decimal point before position `point`, counted from their left end; positions
outside the digits are filled with zeros. -/
def positional (digits : List Char) (point : Int) : List Char :=
  if point ≤ 0 then '0' :: '.' :: (zeros (-point).toNat ++ digits)
  else if digits.length ≤ point then digits ++ zeros (point.toNat - digits.length)
  else digits.take point.toNat ++ '.' :: digits.drop point.toNat

/-- One digit before the point, the others after it, and a signed power of ten. -/
def scientific (digits : List Char) (power : Int) : List Char :=
  let fraction := digits.drop 1
  digits.take 1 ++ (if fraction.isEmpty then [] else '.' :: fraction) ++
    'e' :: (if power < 0 then '-' else '+') :: Nat.toDigits 10 power.natAbs

def digits (d : Decimal) : List Char := Nat.toDigits 10 d.coefficient

/-- Where the decimal point stands, counted from the left end of the digits. -/
def point (d : Decimal) : Int := d.digits.length + d.exponent

end Decimal

namespace Binary64

def signChars (negative : Bool) : List Char := if negative then ['-'] else []

/-- The plain text of a magnitude: the fewest digits that read back, never with an exponent. -/
def plainMagnitude (code : Fin magnitudes) : List Char :=
  if code.val = 0 then ['0']
  else
    let d := Decimal.shortest .up code
    Decimal.positional d.digits d.point

/-- The plain text of a number, with names for what has no digits. -/
def toText : Binary64 → String
  | .nan => "NaN"
  | .infinite negative => if negative then "-inf" else "inf"
  | .finite negative code => String.ofList (signChars negative ++ plainMagnitude code)

/-- The JSON number of a magnitude: powers of ten from -5 to 15 are written out, whole numbers
with `.0`, all others with an exponent. -/
def jsonMagnitude (code : Fin magnitudes) : List Char :=
  if code.val = 0 then ['0', '.', '0']
  else
    let d := Decimal.shortest .even code
    let power := d.point - 1
    if -5 ≤ power ∧ power ≤ 15 then
      Decimal.positional d.digits d.point ++
        (if d.digits.length ≤ d.point then ['.', '0'] else [])
    else Decimal.scientific d.digits power

end Binary64

end FlatRecord
