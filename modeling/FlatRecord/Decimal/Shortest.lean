import FlatRecord.Decimal.Basic

namespace FlatRecord

namespace Decimal

/-- Which of two equally near decimals stands for a binary number. -/
inductive Tie where
  | up
  | even
deriving DecidableEq

/-- A magnitude written out in full: a multiple of 10^-1074. -/
def exact (code : Fin Binary64.magnitudes) : Decimal :=
  ⟨Binary64.units code * Nat.pow 5 1074, -1074⟩

def readsBack (code : Fin Binary64.magnitudes) (d : Decimal) : Bool :=
  d.toBinary false == .finite false code

/-- Of two neighbours on a grid the one that reads back, or the nearer one if both do. The number
lies `rest` above the lower one, and they are `grid` apart. -/
def choose? (tie : Tie) (low high : Decimal) (rest grid : Nat) (lowReads highReads : Bool) :
    Option Decimal :=
  match lowReads, highReads with
  | true, true =>
    if 2 * rest < grid then some low
    else if grid < 2 * rest then some high
    else match tie with
      | .up => some high
      | .even => if low.coefficient % 2 = 0 then some low else some high
  | true, false => some low
  | false, true => some high
  | false, false => none

/-- The neighbour of a magnitude, among the multiples of `10 ^ cut` last places of its exact
decimal, that reads back as it; of two the nearer. -/
def onGrid? (tie : Tie) (code : Fin Binary64.magnitudes) (cut : Nat) : Option Decimal :=
  let whole := exact code
  let grid := tenTo cut
  let below := whole.coefficient / grid
  let rest := whole.coefficient % grid
  let low : Decimal := ⟨below, whole.exponent + cut⟩
  let high : Decimal := ⟨below + 1, whole.exponent + cut⟩
  choose? tie low high rest grid (readsBack code low) (readsBack code high)

/-- The first grid with a decimal that reads back, each time one place finer. -/
def search (tie : Tie) (code : Fin Binary64.magnitudes) : (cuts : Nat) → (cut : Nat) → Decimal
  | 0, _ => exact code
  | cuts + 1, cut => (onGrid? tie code cut).getD (search tie code cuts (cut - 1))

/-- The decimal of fewest digits that reads back as a magnitude. Seventeen digits always do. -/
def shortest (tie : Tie) (code : Fin Binary64.magnitudes) : Decimal :=
  if code.val = 0 then ⟨0, 0⟩
  else
    let digits := (Nat.toDigits 10 (exact code).coefficient).length
    stripZeros 1100 (search tie code 17 (digits - 1))

end Decimal

end FlatRecord
