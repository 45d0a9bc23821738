import Toolpath.Decimal.Basic
import Toolpath.Binary64.Decoding

/-!
# The shortest decimal that reads back

Every decimal strictly between the midpoints to the neighboring binary64 numbers reads
back as the number itself; a midpoint does too when the significand is even. Among the
decimals that read back, those with the fewest digits are wanted, of those the one
nearest the number, and of two equally near ones the greater magnitude.

The search tries the decimal grids from one digit to seventeen. On each grid only the two
neighbors of the number matter: if any point of a grid reads back, one of them does.
-/

namespace Toolpath.Decimal

open Binary64

/-- The numbers that read back as one binary64 number, over a common denominator. -/
structure ReadBack where
  /-- Numerator of the midpoint below. -/
  low : Nat
  /-- Numerator of the number itself. -/
  value : Nat
  /-- Numerator of the midpoint above. -/
  high : Nat
  /-- Common denominator. -/
  denominator : Nat
  /-- The midpoints belong to the interval. -/
  closed : Bool

/-- Interval of a positive finite number, in quarters of its last place. -/
def ReadBack.ofExact (value : Exact) : ReadBack :=
  let center := 4 * value.significand
  let below := if value.isLowerBoundary then 1 else 2
  let power := value.exponent - 2
  let factor := 1 <<< power.toNat
  ⟨(center - below) * factor, center * factor, (center + 2) * factor, 1 <<< (-power).toNat,
    value.significand % 2 = 0⟩

/-- The point of the decimal grid with the given last power that reads back and is nearest
the number, if there is one. -/
def ReadBack.gridPoint? (interval : ReadBack) (power : Int) : Option Nat :=
  let (value, unit) := scaleRatio interval.value interval.denominator (-power)
  let (low, _) := scaleRatio interval.low interval.denominator (-power)
  let (high, _) := scaleRatio interval.high interval.denominator (-power)
  let below := value / unit
  let above := below + 1
  let fitsBelow := low < below * unit || (interval.closed && low = below * unit)
  let fitsAbove := above * unit < high || (interval.closed && above * unit = high)
  if fitsBelow && fitsAbove then
    some (if 2 * (value % unit) < unit then below else above)
  else if fitsBelow then some below
  else if fitsAbove then some above
  else none

/-- Search the grids from coarse to fine. The last one, of seventeen digits, always has a
point that reads back; without one the number is cut off there. -/
def ReadBack.search (interval : ReadBack) : Nat → Int → Decimal
  | 0, power =>
    let (value, unit) := scaleRatio interval.value interval.denominator (-power)
    ⟨(interval.gridPoint? power).getD (value / unit), power⟩
  | finer + 1, power =>
    match interval.gridPoint? power with
    | some point => ⟨point, power⟩
    | none => interval.search finer (power - 1)

/-- The shortest decimal that reads back as a number's magnitude. -/
def shortest (value : Exact) : Decimal :=
  if value.significand = 0 then ⟨0, 0⟩
  else
    let interval := ReadBack.ofExact value
    trim (interval.search 16 (leadingPower interval.value interval.denominator))

end Toolpath.Decimal
