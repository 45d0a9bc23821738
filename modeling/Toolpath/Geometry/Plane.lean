import Toolpath.Geometry.Axis

/-!
# Planes of circular motion

An arc turns in the plane of two axes and may travel along the third. The three
planes are the three ways to pick the pair.
-/

namespace Toolpath

/-- The plane in which an arc turns. -/
inductive Plane where
  /-- First and second axis, with the third perpendicular. -/
  | xy
  /-- First and third axis, with the second perpendicular. -/
  | xz
  /-- Second and third axis, with the first perpendicular. -/
  | yz
  deriving DecidableEq, Repr

namespace Plane

/-- First axis of the plane. -/
def first : Plane → Axis
  | xy | xz => .x
  | yz => .y

/-- Second axis of the plane. -/
def second : Plane → Axis
  | xy => .y
  | xz | yz => .z

/-- Axis perpendicular to the plane. -/
def perpendicular : Plane → Axis
  | xy => .z
  | xz => .y
  | yz => .x

/-- The two axes of the plane and then the perpendicular one. -/
def axes (plane : Plane) : List Axis := [plane.first, plane.second, plane.perpendicular]

/-- The two axes of a plane differ. -/
theorem first_ne_second (plane : Plane) : plane.first ≠ plane.second := by
  cases plane <;> decide

/-- The perpendicular axis is not the first one. -/
theorem first_ne_perpendicular (plane : Plane) : plane.first ≠ plane.perpendicular := by
  cases plane <;> decide

/-- The perpendicular axis is not the second one. -/
theorem second_ne_perpendicular (plane : Plane) : plane.second ≠ plane.perpendicular := by
  cases plane <;> decide

end Plane

end Toolpath
