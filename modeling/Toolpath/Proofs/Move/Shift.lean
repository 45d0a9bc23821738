import Toolpath.Proofs.Move.Calls
import Toolpath.Proofs.Move.Leg

/-!
# Moves that start elsewhere

When sums and differences are exact, a move whose start and target are shifted by a vector is cut in
the same way, and its waypoints are shifted by the vector. No law of any other operation is needed:
lengths, angles, cosines and sines only see differences of coordinates, and these stay the same.
-/

namespace Toolpath

/-- Sums and differences are exact as far as a number that is added everywhere goes. -/
structure ExactSums (α : Type) [Scalar α] : Prop where
  /-- It may be added before or after another number. -/
  add_right_comm : ∀ x y z : α, x + y + z = x + z + y
  /-- It cancels in a difference. -/
  add_sub_add : ∀ x y z : α, (y + z) - (x + z) = y - x

variable {α : Type} [Scalar α]

namespace WaypointSupply

variable {α S : Type} [WaypointSupply S α] {view : S → S} {change : Waypoint α → Waypoint α}

/-- Supplies that hand out the same next waypoints but for a change take the same but for it. -/
theorem take_of_next
    (hnext : ∀ supply, next (view supply) = ((next supply).1.map change, view (next supply).2))
    (count : Nat) (supply : S) :
    take count (view supply) = ((take count supply).1.map change, view (take count supply).2) := by
  induction count generalizing supply with
  | zero => rfl
  | succ count ih =>
    have hview := hnext supply
    rcases hsupply : next supply with ⟨⟨⟩ | waypoint, rest⟩ <;> rw [hsupply] at hview
    · simp only [take, hview, hsupply, Option.map_none, List.map_nil]
    · simp only [take, hview, hsupply, Option.map_some, ih, List.map_cons]

/-- They hold the same waypoints but for the change. -/
theorem toList_of_next
    (hnext : ∀ supply, next (view supply) = ((next supply).1.map change, view (next supply).2))
    (hremaining : ∀ supply : S, remaining (view supply) = remaining supply) (supply : S) :
    toList (view supply) = (toList supply).map change := by
  rw [toList, hremaining, take_of_next hnext, toList]

end WaypointSupply

/-- A point shifted by a vector. -/
def PerAxis.shift (point vector : PerAxis α) : PerAxis α :=
  PerAxis.zipWith (fun coordinate travel => coordinate + travel) point vector

/-- Waypoint at the shifted point. -/
def Waypoint.shift (vector : PerAxis α) (waypoint : Waypoint α) : Waypoint α :=
  { waypoint with point := waypoint.point.shift vector }

/-- Leg between shifted points. -/
def Leg.shift (vector : PerAxis α) (leg : Leg α) : Leg α :=
  ⟨leg.start.shift vector, leg.waypoint.shift vector⟩

/-- Line between shifted points. -/
def LineWalk.shift (vector : PerAxis α) (line : LineWalk α) : LineWalk α :=
  { line with start := line.start.shift vector, target := line.target.shift vector }

/-- Arc between shifted points, around the shifted center. -/
def Arc.shift (vector : PerAxis α) (arc : Arc α) : Arc α :=
  { arc with start := arc.start.shift vector, target := arc.target.shift vector }

/-- What stays fixed of the shifted arc. -/
def ArcPlan.shift (vector : PerAxis α) (plan : ArcPlan α) : ArcPlan α :=
  { plan with
    target := plan.target.shift vector
    center := plan.center.add (plan.plane.planar vector) }

/-- The shifted arc in the course of handing out its waypoints. -/
def ArcWalk.shift (vector : PerAxis α) (arc : ArcWalk α) : ArcWalk α :=
  { arc with plan := arc.plan.shift vector, point := arc.point.shift vector }

namespace PerAxis

/-- A point is shifted on each axis on its own. -/
theorem get_shift (point vector : PerAxis α) (axis : Axis) :
    (point.shift vector).get axis = point.get axis + vector.get axis := by
  rw [shift, get_zipWith]

/-- A coordinate is replaced before or after the point is shifted. -/
theorem shift_set (point vector : PerAxis α) (axis : Axis) (value : α) :
    (point.set axis value).shift vector =
      (point.shift vector).set axis (value + vector.get axis) := by
  cases axis <;> rfl

variable (hexact : ExactSums α)
include hexact

/-- The vector between shifted points is the one between the points. -/
theorem vectorTo_shift (start target vector : PerAxis α) :
    (start.shift vector).vectorTo (target.shift vector) = start.vectorTo target := by
  refine ext_get fun axis => ?_
  rw [vectorTo_get, vectorTo_get, get_shift, get_shift, hexact.add_sub_add]

end PerAxis

section Legs

variable (hexact : ExactSums α) (vector : PerAxis α)
include hexact

namespace Leg

/-- A shifted leg leads along the same vector. -/
theorem displacement_shift (leg : Leg α) : (leg.shift vector).displacement = leg.displacement :=
  PerAxis.vectorTo_shift hexact _ _ vector

/-- A shifted leg is as long. -/
theorem length_shift (leg : Leg α) : (leg.shift vector).length = leg.length :=
  congrArg PerAxis.norm (displacement_shift hexact vector leg)

/-- The legs through shifted waypoints are the shifted legs: the same waypoints are too near. -/
theorem through_shift (start : PerAxis α) (waypoints : List (Waypoint α)) :
    through (start.shift vector) (waypoints.map (Waypoint.shift vector)) =
      (through start waypoints).map (Leg.shift vector) := by
  induction waypoints generalizing start with
  | nil => rfl
  | cons waypoint rest ih =>
    have hlength : (Leg.mk (start.shift vector) (waypoint.shift vector)).length =
        (Leg.mk start waypoint).length := length_shift hexact vector ⟨start, waypoint⟩
    by_cases h : (Leg.mk start waypoint).length < leastMove
    · rw [List.map_cons, through_of_near (hlength ▸ h), through_of_near h, ih]
    · rw [List.map_cons, through_of_far (hlength ▸ h), through_of_far h, List.map_cons]
      exact congrArg _ (ih waypoint.point)

end Leg

end Legs

/-- Shifted legs lead to the shifted end. -/
theorem Leg.finish_shift (vector start : PerAxis α) (legs : List (Leg α)) :
    finish (start.shift vector) (legs.map (Leg.shift vector)) =
      (finish start legs).shift vector := by
  induction legs generalizing start with
  | nil => rfl
  | cons leg rest ih => exact ih leg.waypoint.point

namespace LineWalk

variable (hexact : ExactSums α) (vector : PerAxis α)
include hexact

/-- A shifted line is cut like the line. -/
theorem cut_shift (start target : PerAxis α) (rate maxLength : α) :
    cut (start.shift vector) (target.shift vector) rate maxLength =
      (cut start target rate maxLength).shift vector := by
  simp only [cut, PerAxis.vectorTo_shift hexact]
  rfl

/-- The point of an index is shifted. -/
theorem pointAt_shift (line : LineWalk α) (index : UInt64) :
    (line.shift vector).pointAt index = (line.pointAt index).shift vector := by
  unfold pointAt
  by_cases h : index = line.segments.toUInt64
  · have himage : index = (line.shift vector).segments.toUInt64 := h
    rw [if_pos himage, if_pos h]
    rfl
  · have himage : ¬ index = (line.shift vector).segments.toUInt64 := h
    rw [if_neg himage, if_neg h]
    refine PerAxis.ext_get fun axis => ?_
    have hstart : (line.shift vector).start = line.start.shift vector := rfl
    rw [PerAxis.get_zipWith, PerAxis.get_shift, PerAxis.get_zipWith, hstart, PerAxis.get_shift,
      hexact.add_right_comm]
    rfl

/-- A shifted line hands out the shifted waypoint. -/
theorem next_shift (line : LineWalk α) :
    (line.shift vector).next =
      (line.next.1.map (Waypoint.shift vector), line.next.2.shift vector) := by
  unfold next
  by_cases h : line.segments.toUInt64 < line.cursor
  · have himage : (line.shift vector).segments.toUInt64 < (line.shift vector).cursor := h
    rw [if_pos himage, if_pos h]
    rfl
  · have himage : ¬ (line.shift vector).segments.toUInt64 < (line.shift vector).cursor := h
    rw [if_neg himage, if_neg h, waypointAt, waypointAt, pointAt_shift hexact]
    rfl

/-- A shifted line holds the shifted waypoints. -/
theorem toList_shift (line : LineWalk α) :
    WaypointSupply.toList (line.shift vector) =
      (WaypointSupply.toList line).map (Waypoint.shift vector) :=
  WaypointSupply.toList_of_next (next_shift hexact vector) (fun _ => rfl) line

end LineWalk

section Arcs

variable (hexact : ExactSums α) (vector : PerAxis α)
include hexact

namespace Arc

/-- The center of a shifted arc is shifted. -/
theorem center_shift (arc : Arc α) :
    (arc.shift vector).center = arc.center.add (arc.plane.planar vector) := by
  simp only [center, shift, Planar.add, Plane.planar, PerAxis.get_shift]
  rw [hexact.add_right_comm, hexact.add_right_comm (arc.start.get arc.plane.second)]

/-- The vector from the center to the target is the same. -/
theorem targetRadius_shift (arc : Arc α) : (arc.shift vector).targetRadius = arc.targetRadius := by
  rw [targetRadius, center_shift hexact, targetRadius]
  simp only [shift, Planar.add, Planar.sub, Plane.planar, PerAxis.get_shift, hexact.add_sub_add]

/-- A shifted arc sweeps the same angle. -/
theorem sweep_shift (arc : Arc α) : (arc.shift vector).sweep = arc.sweep := by
  have hangle : (arc.shift vector).counterClockwiseAngle = arc.counterClockwiseAngle := by
    rw [counterClockwiseAngle, counterClockwiseAngle, targetRadius_shift hexact]
    rfl
  rw [sweep, sweep, hangle]
  rfl

/-- A shifted arc rises as much. -/
theorem rise_shift (arc : Arc α) : (arc.shift vector).rise = arc.rise := by
  simp only [rise, shift, PerAxis.get_shift, hexact.add_sub_add]

/-- Its path is as long. -/
theorem length_shift (arc : Arc α) : (arc.shift vector).length = arc.length := by
  rw [length, sweep_shift hexact, rise_shift hexact, length]
  rfl

end Arc

namespace ArcWalk

/-- A shifted arc is cut like the arc. -/
theorem cut_shift (arc : Arc α) (rate maxLength : α) (interval : UInt8) :
    cut (arc.shift vector) rate maxLength interval =
      (cut arc rate maxLength interval).shift vector := by
  simp only [cut, ArcPlan.cut, Arc.length_shift hexact, Arc.sweep_shift hexact,
    Arc.rise_shift hexact, Arc.center_shift hexact]
  rfl

omit hexact in
/-- The shifted arc brings its radius vector to the same place. -/
theorem advanceRadius_shift (arc : ArcWalk α) (index : UInt64) :
    (arc.shift vector).advanceRadius index = (arc.advanceRadius index).shift vector := by
  unfold advanceRadius
  by_cases h : arc.turns < arc.plan.correctionInterval
  · have himage : (arc.shift vector).turns < (arc.shift vector).plan.correctionInterval := h
    rw [if_pos himage, if_pos h]
    rfl
  · have himage : ¬ (arc.shift vector).turns < (arc.shift vector).plan.correctionInterval := h
    rw [if_neg himage, if_neg h]
    rfl

/-- The shifted arc brings its point to the shifted place. -/
theorem advancePoint_shift (arc : ArcWalk α) :
    (arc.shift vector).advancePoint = arc.advancePoint.shift vector := by
  simp only [advancePoint, shift, ArcPlan.shift, PerAxis.shift_set, PerAxis.get_shift, Planar.add,
    Plane.planar]
  rw [hexact.add_right_comm (arc.point.get _), hexact.add_right_comm arc.plan.center.first,
    hexact.add_right_comm arc.plan.center.second]

/-- The shifted arc moves to the shifted place. -/
theorem moved_shift (arc : ArcWalk α) : (arc.shift vector).moved = arc.moved.shift vector := by
  let stepped : ArcWalk α := { arc with cursor := arc.cursor + 1 }
  change ((stepped.shift vector).advanceRadius arc.cursor).advancePoint = _
  rw [advanceRadius_shift, advancePoint_shift hexact]
  rfl

/-- A shifted arc hands out the shifted waypoint. -/
theorem next_shift (arc : ArcWalk α) :
    (arc.shift vector).next =
      (arc.next.1.map (Waypoint.shift vector), arc.next.2.shift vector) := by
  refine next_image rfl rfl ?_ rfl
  rw [moved_shift hexact]
  rfl

/-- A shifted arc holds the shifted waypoints. -/
theorem toList_shift (arc : ArcWalk α) :
    WaypointSupply.toList (arc.shift vector) =
      (WaypointSupply.toList arc).map (Waypoint.shift vector) :=
  WaypointSupply.toList_of_next (next_shift hexact vector) (fun _ => rfl) arc

end ArcWalk

end Arcs

end Toolpath
