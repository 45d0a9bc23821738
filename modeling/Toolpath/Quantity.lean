import Toolpath.Scalar

/-!
# Units of length and rate

Programs give lengths in inches or millimeters; everything inside the machine is in
millimeters. Configured rates are per minute, internal ones per second.
-/

namespace Toolpath

variable {α : Type} [Scalar α]

/-- Divisor of an inch value on its way to millimeters. -/
def inchScale : α := 25.4

/-- Seconds in a minute. -/
def secondsPerMinute : α := 60.0

/-- The unit in which a program gives lengths. -/
inductive LengthUnit where
  /-- Inches. -/
  | inch
  /-- Millimeters. -/
  | millimeter
  deriving DecidableEq, Repr

/-- Length in millimeters of a value given in a unit. Millimeters are kept as they are. -/
def LengthUnit.inMillimeters (unit : LengthUnit) (value : α) : α :=
  match unit with
  | .inch => value / inchScale
  | .millimeter => value

/-- A length in millimeters. -/
structure Length (α : Type) where
  /-- Number of millimeters. -/
  value : α
  deriving DecidableEq, Repr

namespace Length

instance : Add (Length α) := ⟨fun left right => ⟨left.value + right.value⟩⟩

instance : Sub (Length α) := ⟨fun left right => ⟨left.value - right.value⟩⟩

/-- Finite and above zero. -/
def isPositive (length : Length α) : Bool := Scalar.isPositive length.value

/-- Order of two lengths, where the numbers have one. -/
def compare? (left right : Length α) : Option Ordering :=
  Scalar.compare? left.value right.value

end Length

/-- A rate in millimeters per minute. -/
structure Rate (α : Type) where
  /-- Number of millimeters in a minute. -/
  value : α
  deriving DecidableEq, Repr

namespace Rate

/-- A rate times a factor. -/
def scale (rate : Rate α) (factor : α) : Rate α := ⟨rate.value * factor⟩

/-- Millimeters in a second. -/
def perSecond (rate : Rate α) : α := rate.value / secondsPerMinute

/-- Order of two rates, where the numbers have one. -/
def compare? (left right : Rate α) : Option Ordering :=
  Scalar.compare? left.value right.value

end Rate

end Toolpath
