/-!
# Axes and the values that each of them carries

A machine has three linear axes. `PerAxis` holds one value for each axis: a point in
millimeters, a displacement, a count of motor steps or a ratio.
-/

namespace Toolpath

/-- The three linear axes of a machine. -/
inductive Axis where
  /-- First axis. -/
  | x
  /-- Second axis. -/
  | y
  /-- Third axis, the spindle's in the usual setup. -/
  | z
  deriving DecidableEq, Repr

namespace Axis

/-- All axes in their order. -/
def all : List Axis := [x, y, z]

/-- Every axis is listed. -/
theorem mem_all (axis : Axis) : axis ∈ all := by cases axis <;> decide

/-- Place of an axis in the order. -/
def index : Axis → Nat
  | x => 0
  | y => 1
  | z => 2

/-- Capital letter that names an axis. -/
def letter : Axis → Char
  | x => 'X'
  | y => 'Y'
  | z => 'Z'

/-- Letter of the word that places an arc's center along an axis. -/
def centerLetter : Axis → Char
  | x => 'I'
  | y => 'J'
  | z => 'K'

end Axis

/-- One value for each axis. -/
structure PerAxis (β : Type) where
  /-- Value on the first axis. -/
  x : β
  /-- Value on the second axis. -/
  y : β
  /-- Value on the third axis. -/
  z : β
  deriving DecidableEq, Repr

namespace PerAxis

variable {β γ δ : Type}

/-- The same value on every axis. -/
def uniform (value : β) : PerAxis β := ⟨value, value, value⟩

/-- Value on one axis. -/
def get (values : PerAxis β) : Axis → β
  | .x => values.x
  | .y => values.y
  | .z => values.z

/-- Replace the value on one axis. -/
def set (values : PerAxis β) (axis : Axis) (value : β) : PerAxis β :=
  match axis with
  | .x => { values with x := value }
  | .y => { values with y := value }
  | .z => { values with z := value }

/-- The value of each axis, from the axis. -/
def ofFn (f : Axis → β) : PerAxis β := ⟨f .x, f .y, f .z⟩

/-- Combine two values on each axis. -/
def zipWith (f : β → γ → δ) (left : PerAxis β) (right : PerAxis γ) : PerAxis δ :=
  ⟨f left.x right.x, f left.y right.y, f left.z right.z⟩

/-- Values in the order of the axes. -/
def toList (values : PerAxis β) : List β := [values.x, values.y, values.z]

/-- Two triples agree when they agree on every axis. -/
theorem ext_get {left right : PerAxis β} (h : ∀ axis, left.get axis = right.get axis) :
    left = right := by
  cases left
  cases right
  have hx := h .x
  have hy := h .y
  have hz := h .z
  simp only [get] at hx hy hz
  subst hx
  subst hy
  subst hz
  rfl

/-- A replaced value is found on its axis. -/
@[simp] theorem get_set_self (values : PerAxis β) (axis : Axis) (value : β) :
    (values.set axis value).get axis = value := by cases axis <;> rfl

/-- Replacing a value leaves the other axes as they are. -/
theorem get_set_of_ne (values : PerAxis β) {axis other : Axis} (value : β) (h : other ≠ axis) :
    (values.set axis value).get other = values.get other := by
  cases axis <;> cases other <;> simp_all [get, set]

/-- A uniform value is the same on every axis. -/
@[simp] theorem get_uniform (value : β) (axis : Axis) : (uniform value).get axis = value := by
  cases axis <;> rfl

/-- Values made from axes are found on them. -/
@[simp] theorem get_ofFn (f : Axis → β) (axis : Axis) : (ofFn f).get axis = f axis := by
  cases axis <;> rfl

/-- Values are combined on each axis on their own. -/
@[simp] theorem get_zipWith (f : β → γ → δ) (left : PerAxis β) (right : PerAxis γ) (axis : Axis) :
    (zipWith f left right).get axis = f (left.get axis) (right.get axis) := by
  cases axis <;> rfl

end PerAxis

end Toolpath
