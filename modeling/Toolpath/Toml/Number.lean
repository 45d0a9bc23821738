import Toolpath.Decimal.Reading
import Toolpath.Toml.Quoted

/-!
# Numbers

Underscores may stand between digits. A decimal number has no needless leading zero; the
parts after a point or an exponent mark may have some. Integers fit 64 bits with sign, and
a positive number beyond the binary64 range is refused.
-/

namespace Toolpath.Toml

open Reader

/-- Digits of a class with single underscores between them. -/
def digits (accepts : Char → Bool) : Reader (List Char) := do
  let first ← satisfy accepts
  let rest ← many (satisfy accepts <|> (char '_' *> satisfy accepts))
  return first :: rest

/-- Sign, true for a minus; no sign counts as a plus. -/
def sign : Reader Bool :=
  ((fun _ => true) <$> char '-') <|> ((fun _ => false) <$> char '+') <|> pure false

/-- Decimal digits without a needless leading zero. -/
def wholeDigits : Reader (List Char) :=
  (do
    let leading ← satisfy fun c => c.isDigit && c != '0'
    let rest ← many (satisfy Char.isDigit <|> (char '_' *> satisfy Char.isDigit))
    return leading :: rest)
  <|> List.singleton <$> satisfy (· == '0')

/-- A number below zero by its sign. -/
def signedInt (negative : Bool) (magnitude : Nat) : Int :=
  if negative then -(magnitude : Int) else magnitude

/-- Digits in the base that the two characters in front name. -/
def basedInteger (mark : Char) (base : Nat) (accepts : Char → Bool) : Reader Int := do
  char '0'
  char mark
  return digitsValue base (← digits accepts)

/-- Decimal integer with an optional sign. -/
def decimalInteger : Reader Int := do
  let negative ← sign
  return signedInt negative (digitsValue 10 (← wholeDigits))

/-- An integer that fits 64 bits with sign. -/
def fitsWord (number : Int) : Bool :=
  Int64.minValue.toInt ≤ number && number ≤ Int64.maxValue.toInt

/-- Integer in any notation. -/
def integer : Reader Int := do
  let number ← basedInteger 'x' 16 isHexDigit
    <|> basedInteger 'o' 8 (fun c => '0' ≤ c && c ≤ '7')
    <|> basedInteger 'b' 2 (fun c => c == '0' || c == '1')
    <|> decimalInteger
  if fitsWord number then return number else failure

/-- Digits after a point. -/
def fraction : Reader (List Char) := char '.' *> digits Char.isDigit

/-- Power of ten after its mark. -/
def exponent : Reader Int := do
  char 'e' <|> char 'E'
  let negative ← sign
  return signedInt negative (digitsValue 10 (← digits Char.isDigit))

/-- Number with a sign in front. -/
def signedFloat (negative : Bool) (magnitude : Float) : Float :=
  if negative then -magnitude else magnitude

/-- Number with a fraction, an exponent or both. -/
def decimalFloat : Reader Float := do
  let negative ← sign
  let whole ← wholeDigits
  let (places, power) ← (do
      let places ← fraction
      return (places, (← perhaps exponent).getD 0))
    <|> (do return ([], ← exponent))
  let magnitude :=
    Decimal.toFloat ⟨digitsValue 10 (whole ++ places), power - places.length⟩
  if magnitude.isInf && !negative then failure else return signedFloat negative magnitude

/-- Infinity or no number, by name. -/
def namedFloat : Reader Float := do
  let negative ← sign
  (do
    text "inf"
    return signedFloat negative (1.0 / 0.0))
  <|> (do
    text "nan"
    return 0.0 / 0.0)

/-- Number that is not an integer. -/
def float : Reader Float := decimalFloat <|> namedFloat

end Toolpath.Toml
