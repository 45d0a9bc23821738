import Toolpath.Geometry.Vector
import Toolpath.Move.Supply

/-!
# Straight moves in segments

A line is cut into equal segments no longer than a greatest length. Its waypoints are the
points at whole fractions of the displacement; the last one is the target itself, never an
interpolation. The segments of a line can be entered at any index, so skipping waypoints
costs no more than asking for the next one.
-/

namespace Toolpath

variable {α : Type} [Scalar α]

/-- A line from its start to its target, and the index of the next waypoint. -/
structure LineWalk (α : Type) where
  /-- Where the line starts. -/
  start : PerAxis α
  /-- Where it ends. -/
  target : PerAxis α
  /-- Displacement from start to target. -/
  displacement : PerAxis α
  /-- Rate of every waypoint. -/
  rate : α
  /-- Length of the line. -/
  length : α
  /-- Number of segments; none for a line of length zero. -/
  segments : UInt32
  /-- Index of the next waypoint; the first has index one. The word is wider than the
  count, so that the index can step past the greatest count. -/
  cursor : UInt64

namespace LineWalk

/-- Cut a line into segments no longer than the greatest length. -/
def cut (start target : PerAxis α) (rate maxLength : α) : LineWalk α :=
  let displacement := start.vectorTo target
  let length := displacement.norm
  let segments :=
    if length == 0.0 then 0 else atLeastOne (Scalar.ceilCount (length / maxLength))
  ⟨start, target, displacement, rate, length, segments, 1⟩

/-- Point of the waypoint with an index: the target at the last index, and the fraction
of the displacement before it. -/
def pointAt (line : LineWalk α) (index : UInt64) : PerAxis α :=
  if index = line.segments.toUInt64 then line.target
  else
    let fraction := Scalar.ofWord index / Scalar.ofWord line.segments.toUInt64
    PerAxis.zipWith (fun start travel => start + travel * fraction) line.start
      line.displacement

/-- Waypoint with an index. -/
def waypointAt (line : LineWalk α) (index : UInt64) : Waypoint α :=
  ⟨line.pointAt index, line.rate⟩

/-- Number of waypoints that are left. -/
def remaining (line : LineWalk α) : Nat := line.segments.toNat + 1 - line.cursor.toNat

/-- Hand out the waypoint at the cursor, unless it is past the last one. -/
def next (line : LineWalk α) : Option (Waypoint α) × LineWalk α :=
  if line.segments.toUInt64 < line.cursor then (none, line)
  else (some (line.waypointAt line.cursor), { line with cursor := line.cursor + 1 })

/-- Skip waypoints and hand out the one after them. -/
def nth (line : LineWalk α) (skipped : UInt64) : Option (Waypoint α) × LineWalk α :=
  next { line with cursor := addSaturating line.cursor skipped }

instance : WaypointSupply (LineWalk α) α := ⟨next, nth, remaining⟩

/-- The last waypoint is the target. -/
theorem waypointAt_last (line : LineWalk α) :
    line.waypointAt line.segments.toUInt64 = ⟨line.target, line.rate⟩ := by
  rw [waypointAt, pointAt, if_pos rfl]

/-- Only a line of length zero has no segments. -/
theorem cut_segments_eq_zero_iff (start target : PerAxis α) (rate maxLength : α) :
    (cut start target rate maxLength).segments = 0 ↔
      ((start.vectorTo target).norm == (0.0 : α)) = true := by
  simp only [cut]
  split
  · rename_i h
    simp only [h]
  · rename_i h
    have hp := atLeastOne_pos
      (Scalar.ceilCount ((start.vectorTo target).norm / maxLength))
    constructor
    · intro hz
      rw [hz] at hp
      exact absurd hp (by decide)
    · intro ht
      exact absurd ht h

end LineWalk

end Toolpath
