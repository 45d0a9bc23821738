import Toolpath.Move.Arc
import Toolpath.Move.Supply

/-!
# Circular moves in segments

An arc is cut into segments of equal angle, as many whole greatest lengths as its path
holds. From one waypoint to the next the radius vector is turned by a cheap approximation
of the cosine and sine; after a number of such turns it is computed exactly from the start
radius, so errors never grow beyond one interval. Skipping waypoints lands on the exact
radius vector. The last waypoint is the target itself.
-/

namespace Toolpath

variable {α : Type} [Scalar α]

/-- What stays fixed while the waypoints of an arc are handed out. -/
structure ArcPlan (α : Type) where
  /-- Plane of the turn. -/
  plane : Plane
  /-- Where the arc ends. -/
  target : PerAxis α
  /-- Rate of every waypoint. -/
  rate : α
  /-- Center in the plane. -/
  center : Planar α
  /-- Vector from the center to the start. -/
  startRadius : Planar α
  /-- Angle swept by the whole arc. -/
  sweep : α
  /-- Number of segments; none for an arc of length zero. -/
  segments : UInt32
  /-- Angle of one segment. -/
  stepAngle : α
  /-- Travel of one segment along the perpendicular axis. -/
  stepRise : α
  /-- Approximate turns between two exact radius vectors, at least one. -/
  correctionInterval : UInt8
  deriving DecidableEq, Repr

namespace ArcPlan

/-- Cut an arc into as many segments as whole greatest lengths fit its path. An interval
of zero acts as one. -/
def cut (arc : Arc α) (rate maxLength : α) (correctionInterval : UInt8) : ArcPlan α :=
  let path := arc.length
  let segments :=
    if path == 0.0 then 0 else atLeastOne (Scalar.floorCount (path / maxLength))
  let perSegment (travel : α) : α :=
    if segments = 0 then 0.0 else travel / Scalar.ofWord segments.toUInt64
  { plane := arc.plane
    target := arc.target
    rate := rate
    center := arc.center
    startRadius := arc.startRadius
    sweep := arc.sweep
    segments := segments
    stepAngle := perSegment arc.sweep
    stepRise := perSegment arc.rise
    correctionInterval := if correctionInterval = 0 then 1 else correctionInterval }

/-- Cosine of the segment angle to second order. -/
def smallCosine (plan : ArcPlan α) : α :=
  1.0 - 0.5 * plan.stepAngle * plan.stepAngle

/-- Sine of the segment angle to second order. -/
def smallSine (plan : ArcPlan α) : α := plan.stepAngle

/-- Radius vector turned on by one segment, approximately. -/
def smallTurn (plan : ArcPlan α) (radius : Planar α) : Planar α :=
  radius.rotate plan.smallCosine plan.smallSine

/-- Exact radius vector of the waypoint with an index. -/
def exactRadius (plan : ArcPlan α) (index : UInt64) : Planar α :=
  let angle := Scalar.ofWord index * plan.stepAngle
  plan.startRadius.rotate (Scalar.cos angle) (Scalar.sin angle)

/-- The segments of an arc share the angle that it sweeps. -/
theorem cut_stepAngle (arc : Arc α) (rate maxLength : α) (interval : UInt8) :
    (cut arc rate maxLength interval).stepAngle =
      if (cut arc rate maxLength interval).segments = 0 then 0.0
      else arc.sweep / Scalar.ofWord (cut arc rate maxLength interval).segments.toUInt64 := rfl

/-- The segments of an arc share its travel along the perpendicular axis. -/
theorem cut_stepRise (arc : Arc α) (rate maxLength : α) (interval : UInt8) :
    (cut arc rate maxLength interval).stepRise =
      if (cut arc rate maxLength interval).segments = 0 then 0.0
      else arc.rise / Scalar.ofWord (cut arc rate maxLength interval).segments.toUInt64 := rfl

end ArcPlan

/-- An arc in the course of handing out its waypoints. -/
structure ArcWalk (α : Type) where
  /-- What stays fixed. -/
  plan : ArcPlan α
  /-- Radius vector of the waypoint before the cursor. -/
  radius : Planar α
  /-- Point of the waypoint before the cursor. -/
  point : PerAxis α
  /-- Index of the next waypoint; the first has index one. -/
  cursor : UInt64
  /-- Approximate turns since the last exact radius vector. -/
  turns : UInt8
  deriving DecidableEq, Repr

namespace ArcWalk

/-- Segments of an arc, before the first waypoint. -/
def cut (arc : Arc α) (rate maxLength : α) (correctionInterval : UInt8) : ArcWalk α :=
  let plan := ArcPlan.cut arc rate maxLength correctionInterval
  ⟨plan, plan.startRadius, arc.start, 1, 0⟩

/-- Number of waypoints that are left, as a word. -/
def left (arc : ArcWalk α) : UInt64 :=
  if arc.plan.segments.toUInt64 < arc.cursor then 0
  else arc.plan.segments.toUInt64 + 1 - arc.cursor

/-- Number of waypoints that are left. -/
def remaining (arc : ArcWalk α) : Nat := arc.plan.segments.toNat + 1 - arc.cursor.toNat

/-- Bring the radius vector to the waypoint with an index: by one approximate turn while
the interval lasts, and exactly at its end. -/
def advanceRadius (arc : ArcWalk α) (index : UInt64) : ArcWalk α :=
  if arc.turns < arc.plan.correctionInterval then
    { arc with radius := arc.plan.smallTurn arc.radius, turns := arc.turns + 1 }
  else
    { arc with radius := arc.plan.exactRadius index, turns := 0 }

/-- Bring the point to the radius vector in the plane, and one segment on across it. -/
def advancePoint (arc : ArcWalk α) : ArcWalk α :=
  let plane := arc.plan.plane
  let inPlane := arc.plan.center.add arc.radius
  let across := arc.point.get plane.perpendicular + arc.plan.stepRise
  { arc with
    point := ((arc.point.set plane.first inPlane.first).set plane.second inPlane.second).set
      plane.perpendicular across }

/-- Hand out the waypoint at the cursor, unless it is past the last one. The last is the
target and moves nothing but the cursor. -/
def next (arc : ArcWalk α) : Option (Waypoint α) × ArcWalk α :=
  let index := arc.cursor
  if arc.plan.segments.toUInt64 < index then (none, arc)
  else
    let arc := { arc with cursor := index + 1 }
    if index = arc.plan.segments.toUInt64 then (some ⟨arc.plan.target, arc.plan.rate⟩, arc)
    else
      let arc := (arc.advanceRadius index).advancePoint
      (some ⟨arc.point, arc.plan.rate⟩, arc)

/-- Pass over waypoints, at most those that are left. The perpendicular travel is added at
once, and the next radius vector will be an exact one. -/
def skip (arc : ArcWalk α) (skipped : UInt64) : ArcWalk α :=
  let passed := if skipped < arc.left then skipped else arc.left
  let axis := arc.plan.plane.perpendicular
  { arc with
    cursor := arc.cursor + passed
    point := arc.point.set axis
      (arc.point.get axis + arc.plan.stepRise * Scalar.ofWord passed)
    turns := arc.plan.correctionInterval }

/-- Skip waypoints and hand out the one after them. Skipping none is handing out the next. -/
def nth (arc : ArcWalk α) (skipped : UInt64) : Option (Waypoint α) × ArcWalk α :=
  next (if skipped = 0 then arc else arc.skip skipped)

instance : WaypointSupply (ArcWalk α) α := ⟨next, nth, remaining⟩

/-- Skipping none is handing out the next waypoint. -/
theorem nth_zero (arc : ArcWalk α) : arc.nth 0 = arc.next := by
  rw [nth, if_pos rfl]

/-- The fixed part stays fixed. -/
@[simp] theorem next_plan (arc : ArcWalk α) : (arc.next).2.plan = arc.plan := by
  simp only [next]
  split
  · rfl
  · split
    · rfl
    · simp only [advancePoint, advanceRadius]
      split <;> rfl

end ArcWalk

end Toolpath
