import Toolpath.Geometry.Plane
import Toolpath.Geometry.Planar

/-!
# Vectors in space

Vectors have one coordinate on each axis. Their length and their coordinates in a plane are
computed in the order of the axes.
-/

namespace Toolpath

variable {α : Type} [Scalar α]

/-- Vector from one point to another. -/
def PerAxis.vectorTo (start target : PerAxis α) : PerAxis α :=
  PerAxis.zipWith (fun s t => t - s) start target

/-- A vector between points is the difference on each axis. -/
theorem PerAxis.vectorTo_get (start target : PerAxis α) (axis : Axis) :
    (start.vectorTo target).get axis = target.get axis - start.get axis := by
  rw [vectorTo, get_zipWith]

/-- Length of a vector. -/
def PerAxis.norm (vector : PerAxis α) : α :=
  Scalar.sqrt (vector.x * vector.x + vector.y * vector.y + vector.z * vector.z)

omit [Scalar α] in
/-- Coordinates of a vector along the two axes of a plane. -/
def Plane.planar (plane : Plane) (vector : PerAxis α) : Planar α :=
  ⟨vector.get plane.first, vector.get plane.second⟩

end Toolpath
