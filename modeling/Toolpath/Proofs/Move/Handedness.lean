import Mathlib.LinearAlgebra.CrossProduct
import Toolpath.Proofs.Move.Sweep

/-!
# The sense of a turn in space

The sense of an arc is told to a viewer toward whom the perpendicular axis of its plane points. The
axes of the first and of the third plane are listed such that this is the sense of the turn in
space. The second plane lists its axes the other way round: the perpendicular axis points away from
who sees its counter-clockwise arcs turn against the clock. Everything in its plane is thus turned
about the perpendicular axis by the opposite angle.
-/

namespace Toolpath

open Matrix

/-- Unit vector along an axis of the right-handed frame that the three axes make. -/
def Axis.direction : Axis → Fin 3 → ℝ
  | .x => ![1, 0, 0]
  | .y => ![0, 1, 0]
  | .z => ![0, 0, 1]

/-- Coordinates of a vector in this frame. -/
def PerAxis.coordinates (vector : PerAxis ℝ) : Fin 3 → ℝ := ![vector.x, vector.y, vector.z]

/-- A vector in space, turned right-handedly about a unit vector by the angle with the given cosine
and sine. What the vector has along the unit vector is not turned. -/
def turnAbout (axis : Fin 3 → ℝ) (cosine sine : ℝ) (vector : Fin 3 → ℝ) : Fin 3 → ℝ :=
  cosine • vector + sine • (axis ⨯₃ vector) + ((1 - cosine) * (axis ⬝ᵥ vector)) • axis

namespace Plane

/-- Vector in space with two coordinates in the plane and none across it. -/
def inSpace (plane : Plane) (vector : Planar ℝ) : Fin 3 → ℝ :=
  vector.first • plane.first.direction + vector.second • plane.second.direction

/-- One if the axes of a plane in their order are right-handed, and the opposite if they are
left-handed: what the cross product of the two axes in the plane has along the perpendicular one. -/
def handedness (plane : Plane) : ℝ :=
  plane.perpendicular.direction ⬝ᵥ (plane.first.direction ⨯₃ plane.second.direction)

/-- Only the plane of the first and the third axis lists its axes left-handedly. -/
theorem handedness_eq (plane : Plane) :
    plane.handedness = if plane = .xz then -1 else 1 := by
  cases plane <;> simp [handedness, first, second, perpendicular, Axis.direction, cross_apply]

/-- The handedness is a sign. -/
theorem handedness_mul_self (plane : Plane) : plane.handedness * plane.handedness = 1 := by
  rw [handedness_eq]
  split <;> norm_num

/-- The handedness may be moved into a cosine, where it is lost. -/
theorem cos_handedness_mul (plane : Plane) (angle : ℝ) :
    Real.cos (plane.handedness * angle) = Real.cos angle := by
  rw [handedness_eq]
  split
  · rw [neg_one_mul, Real.cos_neg]
  · rw [one_mul]

/-- The handedness may be moved into a sine. -/
theorem sin_handedness_mul (plane : Plane) (angle : ℝ) :
    Real.sin (plane.handedness * angle) = plane.handedness * Real.sin angle := by
  rw [handedness_eq]
  split
  · rw [neg_one_mul, neg_one_mul, Real.sin_neg]
  · rw [one_mul, one_mul]

/-- Across a plane the cross product in space is that of the places in the plane, up to the
handedness. -/
theorem perpendicular_dot_cross (plane : Plane) (left right : PerAxis ℝ) :
    plane.perpendicular.direction ⬝ᵥ (left.coordinates ⨯₃ right.coordinates) =
      plane.handedness * (plane.planar left).cross (plane.planar right) := by
  rw [handedness_eq]
  cases plane <;>
    simp [first, second, perpendicular, Axis.direction, PerAxis.coordinates, PerAxis.get, planar,
      Planar.cross, cross_apply]

/-- A vector of a plane has nothing along the perpendicular axis. -/
theorem perpendicular_dot_inSpace (plane : Plane) (vector : Planar ℝ) :
    plane.perpendicular.direction ⬝ᵥ plane.inSpace vector = 0 := by
  cases plane <;> simp [inSpace, first, second, perpendicular, Axis.direction]

/-- The perpendicular axis turns a vector of its plane by a right angle, in the sense of the
handedness. -/
theorem perpendicular_cross_inSpace (plane : Plane) (vector : Planar ℝ) :
    plane.perpendicular.direction ⨯₃ plane.inSpace vector =
      plane.handedness • plane.inSpace ⟨-vector.second, vector.first⟩ := by
  rw [handedness_eq]
  cases plane <;>
    simp [inSpace, first, second, perpendicular, Axis.direction, cross_apply]

/-- To rotate within a plane is to turn about its perpendicular axis, by the opposite angle if the
plane is left-handed. -/
theorem exact_inSpace_rotate (plane : Plane) (vector : Planar ℝ) (cosine sine : ℝ) :
    plane.inSpace (vector.rotate cosine sine) =
      turnAbout plane.perpendicular.direction cosine (plane.handedness * sine)
        (plane.inSpace vector) := by
  -- the axis turns by a right angle in the sense of the handedness, which thus enters twice
  have hsign : plane.handedness * sine * plane.handedness = sine := by
    rw [mul_right_comm, handedness_mul_self, one_mul]
  rw [turnAbout, perpendicular_dot_inSpace, perpendicular_cross_inSpace, smul_smul, hsign, mul_zero,
    zero_smul, add_zero]
  simp only [inSpace, Planar.rotate, smul_add, smul_smul]
  module

/-- What a viewer toward whom the perpendicular axis points sees of the way between two vectors of
the plane is their cross product in the plane, up to the handedness. -/
theorem perpendicular_dot_cross_inSpace (plane : Plane) (left right : Planar ℝ) :
    plane.perpendicular.direction ⬝ᵥ (plane.inSpace left ⨯₃ plane.inSpace right) =
      plane.handedness * left.cross right := by
  rw [handedness_eq]
  cases plane <;>
    simp [inSpace, first, second, perpendicular, Axis.direction, Planar.cross, cross_apply]

end Plane

/-- The cross product of a vector with its rotated image is the sine, times the squared length. -/
theorem Planar.exact_cross_rotate (vector : Planar ℝ) (cosine sine : ℝ) :
    vector.cross (vector.rotate cosine sine) = sine * vector.norm ^ 2 := by
  rw [exact_norm_sq]
  simp only [cross, rotate]
  ring

namespace ArcPlan

/-- In space an approximate turn is one about the perpendicular axis, by the opposite angle if the
plane is left-handed. -/
theorem exact_inSpace_smallTurn (plan : ArcPlan ℝ) (radius : Planar ℝ) :
    plan.plane.inSpace (plan.smallTurn radius) =
      turnAbout plan.plane.perpendicular.direction (1 - plan.stepAngle ^ 2 / 2)
        (plan.plane.handedness * plan.stepAngle) (plan.plane.inSpace radius) := by
  rw [smallTurn, Plane.exact_inSpace_rotate, exact_smallCosine, smallSine]

/-- A viewer toward whom the perpendicular axis points sees an approximate turn in the sense of the
angle of a segment, unless the plane is left-handed. -/
theorem exact_cross_smallTurn (plan : ArcPlan ℝ) (radius : Planar ℝ) :
    plan.plane.perpendicular.direction ⬝ᵥ
        (plan.plane.inSpace radius ⨯₃ plan.plane.inSpace (plan.smallTurn radius)) =
      plan.plane.handedness * (plan.stepAngle * radius.norm ^ 2) := by
  rw [Plane.perpendicular_dot_cross_inSpace, smallTurn, Planar.exact_cross_rotate, smallSine]

/-- In space an exact radius vector is the start radius, turned about the perpendicular axis by the
angle of so many segments, or by the opposite angle. -/
theorem exact_inSpace_exactRadius (plan : ArcPlan ℝ) (index : UInt64) :
    plan.plane.inSpace (plan.exactRadius index) =
      turnAbout plan.plane.perpendicular.direction
        (Real.cos (plan.plane.handedness * (index.toNat * plan.stepAngle)))
        (Real.sin (plan.plane.handedness * (index.toNat * plan.stepAngle)))
        (plan.plane.inSpace plan.startRadius) := by
  rw [Plane.cos_handedness_mul, Plane.sin_handedness_mul, ← Plane.exact_inSpace_rotate]
  rfl

/-- The angle of a segment is the share of one segment in the sweep; without segments it is zero. -/
theorem exact_stepAngle_eq (arc : Arc ℝ) (rate maxLength : ℝ) (interval : UInt8) :
    (cut arc rate maxLength interval).stepAngle =
      arc.sweep / (cut arc rate maxLength interval).segments.toNat := by
  rcases Nat.eq_zero_or_pos (cut arc rate maxLength interval).segments.toNat with hnone | hsome
  · have hsegments : (cut arc rate maxLength interval).segments = 0 := UInt32.toNat_inj.mp hnone
    rw [cut_stepAngle, if_pos hsegments, hnone, Nat.cast_zero, div_zero]
    norm_num
  · exact (exact_cut_shares hsome).1

end ArcPlan

namespace Arc

/-- Center of an arc as a point in space, at the end of its offset. -/
def centerPoint (arc : Arc ℝ) : PerAxis ℝ :=
  PerAxis.zipWith (fun place offset => place + offset) arc.start arc.offset

/-- In the plane the way from the center to the start is the start radius. -/
theorem exact_planar_vectorTo_start (arc : Arc ℝ) :
    arc.plane.planar (arc.centerPoint.vectorTo arc.start) = arc.startRadius := by
  simp only [startRadius, Plane.planar, Planar.neg, centerPoint, PerAxis.vectorTo_get,
    PerAxis.get_zipWith, sub_add_cancel_left]

/-- In the plane the way from the center to the target is the target radius. -/
theorem planar_vectorTo_target (arc : Arc ℝ) :
    arc.plane.planar (arc.centerPoint.vectorTo arc.target) = arc.targetRadius := by
  simp only [targetRadius, center, Plane.planar, Planar.sub, Planar.add, centerPoint,
    PerAxis.vectorTo_get, PerAxis.get_zipWith]

/-- In space, too, the sweep leads toward the target, turned about the perpendicular axis. -/
theorem exact_turnAbout_sweep {arc : Arc ℝ} (hstart : arc.startRadius.norm ≠ 0)
    (htarget : arc.targetRadius.norm ≠ 0) :
    turnAbout arc.plane.perpendicular.direction (Real.cos (arc.plane.handedness * arc.sweep))
        (Real.sin (arc.plane.handedness * arc.sweep)) (arc.plane.inSpace arc.startRadius) =
      (arc.startRadius.norm / arc.targetRadius.norm) • arc.plane.inSpace arc.targetRadius := by
  have hleads := congrArg arc.plane.inSpace (exact_rotate_sweep hstart htarget)
  rw [Plane.cos_handedness_mul, Plane.sin_handedness_mul, ← Plane.exact_inSpace_rotate]
  refine hleads.trans ?_
  simp only [Plane.inSpace, Planar.scale, smul_add, smul_smul]

/-- Arcs turn in space as the axes of their planes are listed. In exact arithmetic the cross product
from which the sweep of an arc is found is what a viewer sees toward whom the perpendicular axis
points, and the radius vector is turned right-handedly about this axis by the sweep and by the angle
of a segment, except in the plane of the first and the third axis. There the sign is the opposite:
against the clock, an arc sweeps no negative angle, but turns left-handedly. -/
theorem exact_turnsInSpace (arc : Arc ℝ) :
    let sense := arc.plane.handedness
    let axis := arc.plane.perpendicular.direction
    sense = (if arc.plane = .xz then -1 else 1) ∧
    axis ⬝ᵥ ((arc.centerPoint.vectorTo arc.start).coordinates ⨯₃
      (arc.centerPoint.vectorTo arc.target).coordinates) =
        sense * arc.startRadius.cross arc.targetRadius ∧
    (arc.startRadius.norm ≠ 0 → arc.targetRadius.norm ≠ 0 →
      turnAbout axis (Real.cos (sense * arc.sweep)) (Real.sin (sense * arc.sweep))
          (arc.plane.inSpace arc.startRadius) =
        (arc.startRadius.norm / arc.targetRadius.norm) • arc.plane.inSpace arc.targetRadius) ∧
    ∀ (rate maxLength : ℝ) (interval : UInt8),
      let plan := ArcPlan.cut arc rate maxLength interval
      (arc.turn = .counterClockwise → 0 ≤ arc.sweep ∧ 0 ≤ plan.stepAngle) ∧
      (arc.turn = .clockwise → arc.sweep < 0 ∧ plan.stepAngle ≤ 0) ∧
      (∀ radius : Planar ℝ,
        arc.plane.inSpace (plan.smallTurn radius) =
          turnAbout axis (1 - plan.stepAngle ^ 2 / 2) (sense * plan.stepAngle)
            (arc.plane.inSpace radius) ∧
        axis ⬝ᵥ (arc.plane.inSpace radius ⨯₃ arc.plane.inSpace (plan.smallTurn radius)) =
          sense * (plan.stepAngle * radius.norm ^ 2)) ∧
      ∀ index : UInt64,
        arc.plane.inSpace (plan.exactRadius index) =
          turnAbout axis (Real.cos (sense * (index.toNat * plan.stepAngle)))
            (Real.sin (sense * (index.toNat * plan.stepAngle)))
            (arc.plane.inSpace arc.startRadius) := by
  intro sense axis
  obtain ⟨hlower, hupper⟩ := arc.exact_counterClockwiseAngle_mem
  have hcross := arc.plane.perpendicular_dot_cross (arc.centerPoint.vectorTo arc.start)
    (arc.centerPoint.vectorTo arc.target)
  rw [exact_planar_vectorTo_start, planar_vectorTo_target] at hcross
  refine ⟨arc.plane.handedness_eq, hcross, exact_turnAbout_sweep, ?_⟩
  intro rate maxLength interval plan
  have hangle : plan.stepAngle = arc.sweep / plan.segments.toNat :=
    ArcPlan.exact_stepAngle_eq arc rate maxLength interval
  refine ⟨fun hturn => ?_, fun hturn => ?_, fun radius => ?_, plan.exact_inSpace_exactRadius⟩
  · have hsweep : 0 ≤ arc.sweep := by
      rw [sweep_of_counterClockwise hturn]
      exact hlower
    exact ⟨hsweep, hangle ▸ div_nonneg hsweep (Nat.cast_nonneg _)⟩
  · have hsweep : arc.sweep < 0 := by
      rw [exact_sweep_of_clockwise hturn]
      linarith
    exact ⟨hsweep, hangle ▸ div_nonpos_of_nonpos_of_nonneg hsweep.le (Nat.cast_nonneg _)⟩
  · exact ⟨plan.exact_inSpace_smallTurn radius, plan.exact_cross_smallTurn radius⟩

/-- The radius vectors of an arc from one axis to another are the directions of the axes. -/
theorem inSpace_radii_betweenAxes (plane : Plane) (turn : Turn) :
    plane.inSpace (betweenAxes plane turn).startRadius = plane.first.direction ∧
      plane.inSpace (betweenAxes plane turn).targetRadius = plane.second.direction := by
  obtain ⟨hstart, htarget⟩ := radii_betweenAxes plane turn
  rw [hstart, htarget, Plane.inSpace, Plane.inSpace, one_smul, zero_smul, zero_smul, one_smul,
    add_zero, zero_add]
  exact ⟨rfl, rfl⟩

/-- Against the clock the arc is a quarter of a circle, and half its radius fits three times. -/
theorem plan_betweenAxes (plane : Plane) :
    (betweenAxes plane .counterClockwise).sweep = Real.pi / 2 ∧
      (ArcPlan.cut (betweenAxes plane .counterClockwise) 1 (1 / 2) 25).segments.toNat = 3 ∧
      (ArcPlan.cut (betweenAxes plane .counterClockwise) 1 (1 / 2) 25).stepAngle = Real.pi / 6 := by
  have hlower := Real.pi_gt_three
  have hupper := Real.pi_lt_d2
  have hsweep : (betweenAxes plane .counterClockwise).sweep = Real.pi / 2 :=
    (sweep_of_counterClockwise rfl).trans (counterClockwiseAngle_betweenAxes plane _)
  have hlength : (betweenAxes plane .counterClockwise).length = Real.pi / 2 := by
    rw [length_betweenAxes, hsweep, abs_of_pos Real.pi_div_two_pos]
  have hsegments :
      (ArcPlan.cut (betweenAxes plane .counterClockwise) 1 (1 / 2) 25).segments.toNat = 3 := by
    refine ArcPlan.exact_cut_segments 1 25 ?_ ?_ (by norm_num) (by decide)
    · rw [hlength]
      exact Real.pi_div_two_pos.ne'
    · rw [hlength, Nat.floor_eq_iff (by positivity)]
      constructor <;> norm_num <;> linarith
  refine ⟨hsweep, hsegments, ?_⟩
  rw [ArcPlan.exact_stepAngle_eq, hsweep, hsegments]
  norm_num
  ring

/-- Two quarters of a circle against the clock. That from the second axis to the third is a
right-handed turn about the first, which a viewer at its end sees against the clock. That from the
first axis to the third is a left-handed turn about the second. -/
theorem exact_turnsInSpace_quarters :
    let right := betweenAxes .yz .counterClockwise
    let left := betweenAxes .xz .counterClockwise
    right.startRadius.norm ≠ 0 ∧ right.targetRadius.norm ≠ 0 ∧
    left.startRadius.norm ≠ 0 ∧ left.targetRadius.norm ≠ 0 ∧
    turnAbout Axis.x.direction (Real.cos (Real.pi / 2)) (Real.sin (Real.pi / 2))
      Axis.y.direction = Axis.z.direction ∧
    turnAbout Axis.y.direction (Real.cos (-(Real.pi / 2))) (Real.sin (-(Real.pi / 2)))
      Axis.x.direction = Axis.z.direction := by
  intro right left
  have hturns (plane : Plane) : turnAbout plane.perpendicular.direction
      (Real.cos (plane.handedness * (Real.pi / 2))) (Real.sin (plane.handedness * (Real.pi / 2)))
      plane.first.direction = plane.second.direction := by
    obtain ⟨hstart, htarget⟩ := norm_radii_betweenAxes plane .counterClockwise
    obtain ⟨hfirst, hsecond⟩ := inSpace_radii_betweenAxes plane .counterClockwise
    obtain ⟨-, -, hleads, -⟩ := exact_turnsInSpace (betweenAxes plane .counterClockwise)
    have hquarter := hleads (hstart ▸ one_ne_zero) (htarget ▸ one_ne_zero)
    rw [hstart, htarget, div_one, one_smul, (plan_betweenAxes plane).1] at hquarter
    rw [← hfirst, ← hsecond]
    exact hquarter
  have hright := hturns .yz
  have hleft := hturns .xz
  rw [Plane.handedness_eq, if_neg (by decide), one_mul] at hright
  rw [Plane.handedness_eq, if_pos rfl, neg_one_mul] at hleft
  obtain ⟨hright₁, hright₂⟩ := norm_radii_betweenAxes .yz .counterClockwise
  obtain ⟨hleft₁, hleft₂⟩ := norm_radii_betweenAxes .xz .counterClockwise
  exact ⟨hright₁ ▸ one_ne_zero, hright₂ ▸ one_ne_zero, hleft₁ ▸ one_ne_zero,
    hleft₂ ▸ one_ne_zero, hright, hleft⟩

/-- The quarter of a circle from the first axis to the third is cut against the clock into segments
of a positive angle, and its radius vectors have a positive cross product. A viewer toward whom the
second axis points sees it turn with the clock, as a whole and in its first segment. -/
theorem quarter_turnsLeftHanded :
    let quarter := betweenAxes .xz .counterClockwise
    let plan := ArcPlan.cut quarter 1 (1 / 2) 25
    quarter = ofOffset ⟨1, 0, 0⟩ ⟨0, 0, 1⟩ ⟨-1, 0, 0⟩ .counterClockwise .xz ∧
    (quarter.offset.get quarter.plane.first ≠ 0 ∨ quarter.offset.get quarter.plane.second ≠ 0) ∧
    quarter.startRadius.cross quarter.targetRadius = 1 ∧
    quarter.plane.perpendicular.direction ⬝ᵥ
      ((quarter.centerPoint.vectorTo quarter.start).coordinates ⨯₃
        (quarter.centerPoint.vectorTo quarter.target).coordinates) = -1 ∧
    0 < plan.stepAngle ∧
    quarter.plane.perpendicular.direction ⬝ᵥ (quarter.plane.inSpace quarter.startRadius ⨯₃
      quarter.plane.inSpace (plan.smallTurn quarter.startRadius)) = -(Real.pi / 6) := by
  intro quarter plan
  obtain ⟨hstart, htarget⟩ := radii_betweenAxes .xz .counterClockwise
  have hleft : Plane.xz.handedness = -1 := Plane.xz.handedness_eq
  have hangle : plan.stepAngle = Real.pi / 6 := (plan_betweenAxes .xz).2.2
  have hcross : quarter.startRadius.cross quarter.targetRadius = 1 := by
    rw [hstart, htarget, Planar.cross]
    norm_num
  have hseen := quarter.plane.perpendicular_dot_cross
    (quarter.centerPoint.vectorTo quarter.start) (quarter.centerPoint.vectorTo quarter.target)
  rw [exact_planar_vectorTo_start, planar_vectorTo_target, hcross, mul_one] at hseen
  have hfirst := plan.exact_cross_smallTurn quarter.startRadius
  rw [hangle, (norm_radii_betweenAxes .xz .counterClockwise).1] at hfirst
  have hpositive : 0 < Real.pi / 6 := by positivity
  refine ⟨rfl, offset_betweenAxes .xz .counterClockwise, hcross, hseen.trans hleft,
    hangle ▸ hpositive, hfirst.trans ?_⟩
  change Plane.xz.handedness * _ = _
  rw [hleft, one_pow, mul_one, neg_one_mul]

end Arc

end Toolpath
