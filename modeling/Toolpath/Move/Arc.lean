import Toolpath.Geometry.Vector

/-!
# Circular and helical moves

An arc turns around a center in its plane and may travel along the perpendicular axis on
the way. The center is given by its offset from the start. The angle that is swept comes
from one two-argument arctangent of the start radius and the target radius; the sense of the
turn then moves it into its own range.
-/

namespace Toolpath

variable {α : Type} [Scalar α]

/-- Sense in which an arc turns, seen with the perpendicular axis toward the viewer. -/
inductive Turn where
  /-- As the hands of a clock. -/
  | clockwise
  /-- Against the hands of a clock. -/
  | counterClockwise
  deriving DecidableEq, Repr

/-- An arc by its ends, its center and the sense of its turn. -/
structure Arc (α : Type) where
  /-- Where the arc starts. -/
  start : PerAxis α
  /-- Where it ends. -/
  target : PerAxis α
  /-- Offset of the center from the start. -/
  offset : PerAxis α
  /-- Radius that the arc's length is computed with. -/
  radius : α
  /-- Sense of the turn. -/
  turn : Turn
  /-- Plane of the turn. -/
  plane : Plane
  deriving DecidableEq, Repr

namespace Arc

/-- An arc whose radius is the length of the offset in the plane. -/
def ofOffset (start target offset : PerAxis α) (turn : Turn) (plane : Plane) : Arc α :=
  ⟨start, target, offset, (plane.planar offset).norm, turn, plane⟩

/-- Center of the arc in its plane. -/
def center (arc : Arc α) : Planar α :=
  (arc.plane.planar arc.start).add (arc.plane.planar arc.offset)

/-- Vector from the center to the start. -/
def startRadius (arc : Arc α) : Planar α := (arc.plane.planar arc.offset).neg

/-- Vector from the center to the target. -/
def targetRadius (arc : Arc α) : Planar α := (arc.plane.planar arc.target).sub arc.center

/-- Counter-clockwise angle from the start radius to the target radius, at least zero. -/
def counterClockwiseAngle (arc : Arc α) : α :=
  let angle := Scalar.atan2 (arc.startRadius.cross arc.targetRadius)
    (arc.startRadius.dot arc.targetRadius)
  if angle < 0.0 then angle + 2.0 * Scalar.pi else angle

/-- Angle swept by the arc, negative for a clockwise one. -/
def sweep (arc : Arc α) : α :=
  match arc.turn with
  | .counterClockwise => arc.counterClockwiseAngle
  | .clockwise => arc.counterClockwiseAngle - 2.0 * Scalar.pi

/-- Travel along the perpendicular axis. -/
def rise (arc : Arc α) : α :=
  arc.target.get arc.plane.perpendicular - arc.start.get arc.plane.perpendicular

/-- Length of the helix. -/
def length (arc : Arc α) : α := Scalar.hypot (arc.sweep * arc.radius) (Scalar.abs arc.rise)

end Arc

end Toolpath
