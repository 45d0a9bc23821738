/-!
# Binary64 numbers as exact dyadic numbers

A binary64 word holds a sign bit, eleven exponent bits and fifty-two fraction bits.
Decoded, a finite word is a sign, a natural significand and a power of two; its exact
value is their product. Every conversion of this library between binary64 numbers and
integers or decimal texts is computed from that triple, in exact arithmetic.
-/

namespace Toolpath.Binary64

/-- The exact value `significand * 2 ^ exponent`, negated if `negative`. The sign of
zero is kept. -/
structure Exact where
  /-- Sign bit; true below zero, and for the negative zero. -/
  negative : Bool
  /-- Integer significand, below `2 ^ 53`. -/
  significand : Nat
  /-- Power of two that scales the significand, at least `-1074`. -/
  exponent : Int
  deriving DecidableEq, Repr

/-- Significand of a number whose fraction bits are all zero, the least normal one. -/
def hiddenBit : Nat := 1 <<< 52

/-- What a binary64 word stands for. -/
inductive Decoded where
  /-- No number, whatever its sign and payload. -/
  | undefined
  /-- An infinity with its sign. -/
  | infinite (negative : Bool)
  /-- A finite number. -/
  | finite (value : Exact)
  deriving DecidableEq, Repr

/-- Decode sign, exponent and fraction. An exponent field of zero has no hidden bit and
shares the power of two of field one. -/
def decode (number : Float) : Decoded :=
  let bits := number.toBits
  let negative := bits >>> 63 != 0
  let field := ((bits >>> 52) &&& 0x7FF).toNat
  let fraction := (bits &&& 0xFFFFFFFFFFFFF).toNat
  if field = 0x7FF then
    if fraction = 0 then .infinite negative else .undefined
  else if field = 0 then
    .finite ⟨negative, fraction, -1074⟩
  else
    .finite ⟨negative, hiddenBit + fraction, (field : Int) - 1075⟩

/-- Exactly the powers of two have a nearer neighbor below than above, the least normal
power excepted. -/
def Exact.isLowerBoundary (value : Exact) : Bool :=
  value.significand = hiddenBit && value.exponent > -1074

namespace Exact

/-- The magnitude as a fraction: numerator and denominator. -/
def ratio (value : Exact) : Nat × Nat :=
  if 0 ≤ value.exponent then (value.significand <<< value.exponent.toNat, 1)
  else (value.significand, 1 <<< (-value.exponent).toNat)

/-- Attach the sign to an integer magnitude. -/
def signed (value : Exact) (magnitude : Nat) : Int :=
  if value.negative then -(magnitude : Int) else magnitude

/-- Greatest natural number not above the magnitude. -/
def magnitudeFloor (value : Exact) : Nat := value.ratio.1 / value.ratio.2

/-- Least natural number not below the magnitude. -/
def magnitudeCeil (value : Exact) : Nat := (value.ratio.1 + (value.ratio.2 - 1)) / value.ratio.2

/-- The magnitude is a natural number. -/
def isWhole (value : Exact) : Bool := value.ratio.1 % value.ratio.2 = 0

/-- Greatest integer not above the value. -/
def floor (value : Exact) : Int :=
  if value.negative then -(value.magnitudeCeil : Int) else value.magnitudeFloor

/-- Least integer not below the value. -/
def ceil (value : Exact) : Int :=
  if value.negative then -(value.magnitudeFloor : Int) else value.magnitudeCeil

/-- Nearest integer; a half goes away from zero. -/
def nearest (value : Exact) : Int :=
  value.signed ((2 * value.ratio.1 + value.ratio.2) / (2 * value.ratio.2))

/-- The integer that the value equals, if it is one. -/
def whole? (value : Exact) : Option Int :=
  if value.isWhole then some (value.signed value.magnitudeFloor) else none

end Exact

end Toolpath.Binary64
