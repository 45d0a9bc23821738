import Toolpath.Decimal.Shortest

/-!
# Texts of binary64 numbers

Messages show a number as its shortest positional decimal.
-/

namespace Toolpath.Binary64

/-- Minus sign in front of a negative magnitude's text. -/
def withSign (negative : Bool) (text : String) : String :=
  if negative then "-" ++ text else text

/-- Shortest positional decimal, with no point on whole numbers. The sign of zero is shown. -/
def plainText (number : Float) : String :=
  match decode number with
  | .undefined => "NaN"
  | .infinite negative => withSign negative "inf"
  | .finite value => withSign value.negative (Decimal.shortest value).positional

end Toolpath.Binary64
