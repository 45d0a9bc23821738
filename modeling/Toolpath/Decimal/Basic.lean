/-!
# Decimal numbers and their positional text

A decimal is a natural coefficient times a power of ten. Its positional text spells out
every zero and never uses an exponent. Quotients are rounded to the nearest integer with
exact halves going to the even neighbor.
-/

namespace Toolpath

/-- The value `coefficient * 10 ^ exponent`. -/
structure Decimal where
  /-- Digits, read as one natural number. -/
  coefficient : Nat
  /-- Power of ten of the last digit. -/
  exponent : Int
  deriving DecidableEq, Repr

namespace Decimal

/-- A run of zeros. -/
def zeros (count : Nat) : List Char := List.replicate count '0'

/-- Digits of the coefficient with the point put in by the exponent. A value below one
has a single zero before the point; a coefficient keeps its trailing zeros. -/
def positional (value : Decimal) : String :=
  let digits := Nat.toDigits 10 value.coefficient
  if 0 ≤ value.exponent then
    String.ofList (digits ++ zeros value.exponent.toNat)
  else
    let places := (-value.exponent).toNat
    if places < digits.length then
      let whole := digits.length - places
      String.ofList (digits.take whole ++ '.' :: digits.drop whole)
    else
      String.ofList ('0' :: '.' :: zeros (places - digits.length) ++ digits)

/-- Move trailing zeros of the coefficient into the exponent. -/
def trim (value : Decimal) : Decimal :=
  if value.coefficient ≠ 0 ∧ value.coefficient % 10 = 0 then
    trim ⟨value.coefficient / 10, value.exponent + 1⟩
  else value
termination_by value.coefficient
decreasing_by omega

/-- Quotient rounded to the nearest integer, a half to the even one. -/
def roundDiv (numerator denominator : Nat) : Nat :=
  let quotient := numerator / denominator
  let rest := numerator % denominator
  if 2 * rest < denominator ∨ (2 * rest = denominator ∧ quotient % 2 = 0) then quotient
  else quotient + 1

/-- Power of ten with a natural exponent. -/
def powerOfTen (exponent : Nat) : Nat := Nat.pow 10 exponent

/-- A fraction scaled by a power of ten, as a fraction. -/
def scaleRatio (numerator denominator : Nat) (power : Int) : Nat × Nat :=
  if 0 ≤ power then (numerator * powerOfTen power.toNat, denominator)
  else (numerator, denominator * powerOfTen (-power).toNat)

/-- A positive fraction is at least the power of ten. -/
def reaches (numerator denominator : Nat) (power : Int) : Bool :=
  let scaled := scaleRatio numerator denominator (-power)
  scaled.2 ≤ scaled.1

/-- Greatest power of ten, among a few above a starting one, that a fraction reaches. -/
def climb (numerator denominator : Nat) : Nat → Int → Int
  | 0, power => power
  | steps + 1, power =>
    if reaches numerator denominator (power + 1) then climb numerator denominator steps (power + 1)
    else power

/-- Power of ten of the leading digit of a positive fraction. The bit lengths of both
sides give a lower guess that is at most three short. -/
def leadingPower (numerator denominator : Nat) : Int :=
  let bits := (Nat.log2 numerator : Int) - Nat.log2 denominator
  climb numerator denominator 4 ((bits - 1) * 30103 / 100000 - 1)

end Decimal

end Toolpath
