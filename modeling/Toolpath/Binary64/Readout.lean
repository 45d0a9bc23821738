import Toolpath.Binary64.Text

/-!
# Readouts of binary64 numbers

Results are read out to be compared with others. Exact results show the bits of the word in
hexadecimal. Approximate ones show nine decimals, or nine digits after the point and an exponent
from a hundred thousand on. No machine reads a number out in this way.
-/

namespace Toolpath.Binary64

/-- Lower-case hexadecimal digits of the word, sixteen of them. -/
def bitsText (number : Float) : String :=
  let digits := Nat.toDigits 16 number.toBits.toNat
  String.ofList (Decimal.zeros (16 - digits.length) ++ digits)

/-- Text of a magnitude with a fixed number of decimals. A result that rounds to zero has
no sign. -/
def fixedText (places : Nat) (value : Exact) : String :=
  let (numerator, denominator) := value.ratio
  let rounded := Decimal.roundDiv (numerator * Decimal.powerOfTen places) denominator
  withSign (value.negative && rounded != 0) (Decimal.positional ⟨rounded, -(places : Int)⟩)

/-- Text of a positive magnitude with one digit before the point, a fixed number after it,
and the exponent without plus sign or padding. Rounding up to ten moves the point. -/
def scientificText (places : Nat) (value : Exact) : String :=
  let (numerator, denominator) := value.ratio
  let power := Decimal.leadingPower numerator denominator
  let (scaled, unit) := Decimal.scaleRatio numerator denominator (places - power)
  let rounded := Decimal.roundDiv scaled unit
  let (digits, power) :=
    if rounded = Decimal.powerOfTen (places + 1) then (rounded / 10, power + 1)
    else (rounded, power)
  withSign value.negative
    (Decimal.positional ⟨digits, -(places : Int)⟩ ++ "e" ++ toString power)

/-- Nine decimals below a hundred thousand, scientific with nine decimals from there on. -/
def roundedText (value : Exact) : String :=
  if value.ratio.1 < 100000 * value.ratio.2 then fixedText 9 value else scientificText 9 value

/-- How a number is read out. -/
inductive Readout where
  /-- The bits of the word. -/
  | bits
  /-- Nine rounded decimals. -/
  | rounded
  deriving DecidableEq, Repr

/-- Text of a number under a readout. Numbers that are not finite have names. -/
def Readout.text (readout : Readout) (number : Float) : String :=
  match decode number with
  | .undefined => "nan"
  | .infinite negative => withSign negative "inf"
  | .finite value =>
    match readout with
    | .bits => bitsText number
    | .rounded => roundedText value

end Toolpath.Binary64
