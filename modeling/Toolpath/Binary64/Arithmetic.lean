import Toolpath.Scalar
import Toolpath.Binary64.Decoding

/-!
# Binary64 as a number type for motion formulas

Arithmetic and square root are the correctly rounded machine operations; sine, cosine
and the two-argument arctangent are the machine's own. Roundings to integers are exact
on the decoded number and saturate at the ends of the word.
-/

namespace Toolpath.Binary64

/-- The power of two of a positive number's exponent, and the least normal power for a
number without hidden bit. Division by it is exact. -/
def scale (number : Float) : Float :=
  let field := number.toBits &&& 0x7FF0000000000000
  Float.ofBits (if field == 0 then 0x0010000000000000 else field)

/-- Square root of the sum of two squares. Both legs are divided by a power of two near
the longer one, so that no square overflows or vanishes. An infinite leg wins over an
undefined one. -/
def hypot (left right : Float) : Float :=
  let a := left.abs
  let b := right.abs
  if a.isInf || b.isInf then 1.0 / 0.0
  else if a.isNaN || b.isNaN then 0.0 / 0.0
  else
    let unit := scale (if a < b then b else a)
    let u := a / unit
    let v := b / unit
    Float.sqrt (u * u + v * v) * unit

/-- Read a decoded number with an integer rounding and then a saturated word. An
undefined number reads as zero, an infinity as the end of the word's range. -/
def saturate {β : Type} (zero low high : β) (clamp : Int → β) (round : Exact → Int)
    (number : Float) : β :=
  match decode number with
  | .undefined => zero
  | .infinite negative => if negative then low else high
  | .finite value => clamp (round value)

/-- Count from an integer: nothing below zero, the greatest word beyond the range. -/
def clampCount (value : Int) : UInt32 := UInt32.ofNatClamp value.toNat

/-- Rounded up to a saturated count. -/
def ceilCount : Float → UInt32 := saturate 0 0 0xFFFFFFFF clampCount Exact.ceil

/-- Rounded down to a saturated count. -/
def floorCount : Float → UInt32 := saturate 0 0 0xFFFFFFFF clampCount Exact.floor

/-- Rounded to the nearest saturated signed word. -/
def nearestStep : Float → Int32 :=
  saturate 0 Int32.minValue Int32.maxValue Int32.ofIntClamp Exact.nearest

/-- The integer that a number equals, if it equals one. -/
def whole? (number : Float) : Option Int :=
  match decode number with
  | .finite value => value.whole?
  | _ => none

instance : Scalar Float where
  decidableLT := inferInstance
  isFinite := Float.isFinite
  pi := 3.141592653589793
  abs := Float.abs
  sqrt := Float.sqrt
  hypot := hypot
  atan2 := Float.atan2
  cos := Float.cos
  sin := Float.sin
  ofWord := UInt64.toFloat
  whole? := whole?
  ceilCount := ceilCount
  floorCount := floorCount
  nearestStep := nearestStep

end Toolpath.Binary64
