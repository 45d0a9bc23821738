/-!
# Number types for motion formulas

Every formula of this library is written once, over a number type that has the
operations below. A running machine uses binary64 numbers; statements in exact
arithmetic use the real numbers. The class asks for no law: what holds of every
instance holds of the rounded numbers too, operation for operation.

Roundings to machine words never wrap: a number beyond the word's range gives the
nearest end of the range, and a value that is not a number gives zero.
-/

namespace Toolpath

/-- A number type with the operations that motion formulas use. -/
class Scalar (α : Type) extends Add α, Sub α, Mul α, Div α, Neg α, LT α, BEq α,
    OfScientific α where
  /-- Strict order is decided. -/
  decidableLT : DecidableLT α
  /-- Neither an infinity nor an undefined result. -/
  isFinite : α → Bool
  /-- Half a turn, in radians. -/
  pi : α
  /-- Absolute value. -/
  abs : α → α
  /-- Square root. -/
  sqrt : α → α
  /-- Length of the hypotenuse over two legs, without early overflow. -/
  hypot : α → α → α
  /-- Angle of the vector whose second coordinate comes first, in `[-pi, pi]`. -/
  atan2 : α → α → α
  /-- Cosine of an angle in radians. -/
  cos : α → α
  /-- Sine of an angle in radians. -/
  sin : α → α
  /-- The number with the value of a word. -/
  ofWord : UInt64 → α
  /-- The integer that a number equals, if it equals one. -/
  whole? : α → Option Int
  /-- Least integer at or above, as a saturated count. -/
  ceilCount : α → UInt32
  /-- Greatest integer at or below, as a saturated count. -/
  floorCount : α → UInt32
  /-- Nearest integer, halves away from zero, as a saturated signed word. -/
  nearestStep : α → Int32

attribute [reducible, instance] Scalar.decidableLT

namespace Scalar

variable {α : Type} [Scalar α]

/-- Finite and above zero: what a length, a rate or a ratio has to be. -/
def isPositive (x : α) : Bool := isFinite x && decide (0.0 < x)

/-- Order of two numbers as far as the number type decides it. An undefined number
is comparable with nothing. -/
def compare? (x y : α) : Option Ordering :=
  if x == y then some .eq
  else if x < y then some .lt
  else if y < x then some .gt
  else none

end Scalar

end Toolpath
