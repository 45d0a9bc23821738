import Mathlib.Analysis.SpecialFunctions.Complex.Arg
import Toolpath.Proofs.Move.Asking
import Toolpath.Proofs.Move.Sweep

/-!
# Mirror images of arcs

An arc is mirrored by a change of sign along one axis of its plane and the opposite sense of its
turn. In exact arithmetic this changes the sign of its sweep, and every waypoint becomes its mirror
image. The exceptions are arcs whose target lies on the ray from the center through the start: a
counter-clockwise one sweeps nothing and a clockwise one a full turn, on either side of the mirror.
-/

namespace Toolpath

variable {α : Type} [Scalar α]

/-- The other sense. -/
def Turn.opposite : Turn → Turn
  | .clockwise => .counterClockwise
  | .counterClockwise => .clockwise

/-- Values with the one on an axis of the opposite sign. -/
def PerAxis.mirror (axis : Axis) (values : PerAxis α) : PerAxis α :=
  values.set axis (-values.get axis)

/-- Vector of a plane with the coordinate along an axis of the opposite sign. -/
def Plane.mirror (plane : Plane) (axis : Axis) (vector : Planar α) : Planar α :=
  ⟨if plane.first = axis then -vector.first else vector.first,
    if plane.second = axis then -vector.second else vector.second⟩

/-- Waypoint at the mirror image of a point. -/
def Waypoint.mirror (axis : Axis) (waypoint : Waypoint α) : Waypoint α :=
  { waypoint with point := waypoint.point.mirror axis }

/-- Mirror image of an arc, which turns in the opposite sense. -/
def Arc.mirror (axis : Axis) (arc : Arc α) : Arc α :=
  { arc with
    start := arc.start.mirror axis
    target := arc.target.mirror axis
    offset := arc.offset.mirror axis
    turn := arc.turn.opposite }

/-- Mirror image of what stays fixed of an arc. -/
def ArcPlan.mirror (axis : Axis) (plan : ArcPlan α) : ArcPlan α :=
  { plan with
    target := plan.target.mirror axis
    center := plan.plane.mirror axis plan.center
    startRadius := plan.plane.mirror axis plan.startRadius
    sweep := -plan.sweep
    stepAngle := -plan.stepAngle }

/-- Mirror image of an arc in the course of handing out its waypoints. -/
def ArcWalk.mirror (axis : Axis) (arc : ArcWalk α) : ArcWalk α :=
  { arc with
    plan := arc.plan.mirror axis
    radius := arc.plan.plane.mirror axis arc.radius
    point := arc.point.mirror axis }

namespace PerAxis

/-- The mirrored value has the opposite sign, the others are as they were. -/
theorem get_mirror (values : PerAxis α) (axis other : Axis) :
    (values.mirror axis).get other =
      if other = axis then -values.get other else values.get other := by
  unfold mirror
  by_cases h : other = axis
  · rw [if_pos h, h, get_set_self]
  · rw [if_neg h, get_set_of_ne _ _ h]

/-- A value off the mirrored axis is as it was. -/
theorem get_mirror_of_ne (values : PerAxis α) {axis other : Axis} (h : other ≠ axis) :
    (values.mirror axis).get other = values.get other := get_set_of_ne _ _ h

/-- A value off the mirrored axis can be replaced before or after. -/
theorem mirror_set_of_ne (values : PerAxis α) {axis other : Axis} (value : α) (h : other ≠ axis) :
    (values.set other value).mirror axis = (values.mirror axis).set other value := by
  refine ext_get fun place => ?_
  rw [get_mirror]
  by_cases hplace : place = other
  · rw [hplace, get_set_self, get_set_self, if_neg h]
  · rw [get_set_of_ne _ _ hplace, get_set_of_ne _ _ hplace, get_mirror]

omit [Scalar α] in
/-- A point is settled by its place in a plane and across it. -/
theorem ext_plane {plane : Plane} {left right : PerAxis α}
    (hplanar : plane.planar left = plane.planar right)
    (hacross : left.get plane.perpendicular = right.get plane.perpendicular) : left = right := by
  obtain ⟨hfirst, hsecond⟩ := Planar.mk.inj hplanar
  refine ext_get fun axis => ?_
  cases plane <;> cases axis <;> assumption

end PerAxis

namespace Plane

variable {plane : Plane} {axis : Axis}

/-- Every axis but the perpendicular one is in the plane. -/
theorem eq_of_ne_perpendicular (haxis : axis ≠ plane.perpendicular) :
    plane.first = axis ∨ plane.second = axis := by
  cases plane <;> cases axis <;> simp_all [first, second, perpendicular]

/-- In its plane a mirrored point is at the mirrored place. -/
theorem planar_mirror (plane : Plane) (axis : Axis) (point : PerAxis α) :
    plane.planar (point.mirror axis) = plane.mirror axis (plane.planar point) := by
  rw [planar, PerAxis.get_mirror, PerAxis.get_mirror]
  rfl

/-- Mirrored along the first axis, a vector keeps its second coordinate. -/
theorem mirror_first (plane : Plane) (vector : Planar α) :
    plane.mirror plane.first vector = ⟨-vector.first, vector.second⟩ := by
  rw [mirror, if_pos rfl, if_neg plane.first_ne_second.symm]

/-- Mirrored along the second axis, a vector keeps its first coordinate. -/
theorem mirror_second (plane : Plane) (vector : Planar α) :
    plane.mirror plane.second vector = ⟨vector.first, -vector.second⟩ := by
  rw [mirror, if_neg plane.first_ne_second, if_pos rfl]

/-- A sum is mirrored in its parts. -/
theorem exact_mirror_add (plane : Plane) (axis : Axis) (left right : Planar ℝ) :
    plane.mirror axis (left.add right) =
      (plane.mirror axis left).add (plane.mirror axis right) := by
  simp only [mirror, Planar.add, Planar.mk.injEq]
  constructor <;> split <;> ring

/-- A difference is mirrored in its parts. -/
theorem exact_mirror_sub (plane : Plane) (axis : Axis) (left right : Planar ℝ) :
    plane.mirror axis (left.sub right) =
      (plane.mirror axis left).sub (plane.mirror axis right) := by
  simp only [mirror, Planar.sub, Planar.mk.injEq]
  constructor <;> split <;> ring

/-- Opposite vectors have opposite mirror images. -/
theorem mirror_neg (plane : Plane) (axis : Axis) (vector : Planar α) :
    plane.mirror axis vector.neg = (plane.mirror axis vector).neg := by
  simp only [mirror, Planar.neg, Planar.mk.injEq]
  constructor <;> split <;> rfl

/-- A mirror image is as long as the vector. -/
theorem exact_norm_mirror (plane : Plane) (axis : Axis) (vector : Planar ℝ) :
    (plane.mirror axis vector).norm = vector.norm := by
  have hsquare : (plane.mirror axis vector).norm ^ 2 = vector.norm ^ 2 := by
    rw [Planar.exact_norm_sq, Planar.exact_norm_sq]
    simp only [mirror]
    split <;> split <;> ring
  exact (pow_left_inj₀ (Planar.exact_norm_nonneg _) (Planar.exact_norm_nonneg _)
    two_ne_zero).mp hsquare

/-- Mirroring keeps the inner product. -/
theorem exact_dot_mirror (plane : Plane) (axis : Axis) (left right : Planar ℝ) :
    (plane.mirror axis left).dot (plane.mirror axis right) = left.dot right := by
  simp only [mirror, Planar.dot]
  split <;> split <;> ring

/-- Mirroring within the plane changes the sign of the cross product. -/
theorem exact_cross_mirror (haxis : axis ≠ plane.perpendicular) (left right : Planar ℝ) :
    (plane.mirror axis left).cross (plane.mirror axis right) = -left.cross right := by
  rcases eq_of_ne_perpendicular haxis with rfl | rfl
  · simp only [mirror_first, Planar.cross]
    ring
  · simp only [mirror_second, Planar.cross]
    ring

/-- A mirrored vector turns the other way. -/
theorem exact_rotate_mirror (haxis : axis ≠ plane.perpendicular) (vector : Planar ℝ)
    (cosine sine : ℝ) :
    (plane.mirror axis vector).rotate cosine (-sine) =
      plane.mirror axis (vector.rotate cosine sine) := by
  rcases eq_of_ne_perpendicular haxis with rfl | rfl
  · simp only [mirror_first, Planar.rotate, Planar.mk.injEq]
    constructor <;> ring
  · simp only [mirror_second, Planar.rotate, Planar.mk.injEq]
    constructor <;> ring

/-- Mirroring changes the sign of the angle between vectors, except for half a turn. -/
theorem exact_angleTo_mirror (haxis : axis ≠ plane.perpendicular) (left right : Planar ℝ) :
    (plane.mirror axis left).angleTo (plane.mirror axis right) =
      if left.angleTo right = Real.pi then Real.pi else -left.angleTo right := by
  have hlegs : (⟨left.dot right, -left.cross right⟩ : ℂ) =
      starRingEnd ℂ ⟨left.dot right, left.cross right⟩ := rfl
  rw [Planar.angleTo, exact_dot_mirror, exact_cross_mirror haxis, hlegs, Complex.arg_conj]
  rfl

end Plane

namespace Arc

/-- The target lies on the ray from the center through the start, in the plane of the arc. -/
def EndsOnStartRay (arc : Arc ℝ) : Prop :=
  ∃ factor : ℝ, 0 ≤ factor ∧ arc.targetRadius = arc.startRadius.scale factor

/-- An arc that ends where it starts ends on the ray. -/
theorem endsOnStartRay_of_closed {arc : Arc ℝ} (h : arc.target = arc.start) :
    arc.EndsOnStartRay := by
  refine ⟨1, zero_le_one, ?_⟩
  rw [Planar.exact_scale_one, targetRadius, h, startRadius, center]
  simp only [Planar.sub, Planar.add, Planar.neg, Planar.mk.injEq]
  constructor <;> ring

/-- Nothing is swept counter-clockwise exactly when the target lies on the ray through the start. -/
theorem exact_counterClockwiseAngle_eq_zero_iff {arc : Arc ℝ} (hstart : arc.startRadius.norm ≠ 0) :
    arc.counterClockwiseAngle = 0 ↔ arc.EndsOnStartRay := by
  have hpi := Real.pi_pos
  have hlower : -Real.pi < arc.startRadius.angleTo arc.targetRadius := Complex.neg_pi_lt_arg _
  have hangle : arc.counterClockwiseAngle = 0 ↔
      arc.startRadius.angleTo arc.targetRadius = 0 := by
    rw [exact_counterClockwiseAngle_eq]
    split
    · constructor <;> intro h <;> linarith
    · rfl
  have hlegs : arc.startRadius.angleTo arc.targetRadius = 0 ↔
      0 ≤ arc.startRadius.dot arc.targetRadius ∧ arc.startRadius.cross arc.targetRadius = 0 :=
    Complex.arg_eq_zero_iff
  have hsquare : 0 < arc.startRadius.norm ^ 2 :=
    pow_pos ((Planar.exact_norm_nonneg _).lt_of_ne' hstart) 2
  have hnorm := Planar.exact_norm_sq arc.startRadius
  rw [hangle, hlegs]
  constructor
  · rintro ⟨hdot, hcross⟩
    refine ⟨arc.startRadius.dot arc.targetRadius / arc.startRadius.norm ^ 2,
      div_nonneg hdot hsquare.le, ?_⟩
    have hturned := Planar.exact_rotate_dot_cross arc.startRadius arc.targetRadius
    refine Planar.exact_scale_injective hsquare.ne' ?_
    rw [← hturned, hcross, Planar.exact_scale_scale, mul_div_cancel₀ _ hsquare.ne']
    simp only [Planar.rotate, Planar.scale, Planar.mk.injEq]
    constructor <;> ring
  · rintro ⟨factor, hfactor, htarget⟩
    have hdot : arc.startRadius.dot arc.targetRadius = factor * arc.startRadius.norm ^ 2 := by
      rw [htarget, hnorm]
      simp only [Planar.dot, Planar.scale]
      ring
    have hcross : arc.startRadius.cross arc.targetRadius = 0 := by
      rw [htarget]
      simp only [Planar.cross, Planar.scale]
      ring
    exact ⟨hdot ▸ mul_nonneg hfactor hsquare.le, hcross⟩

variable {arc : Arc ℝ} {axis : Axis}

/-- The vector to the start is mirrored. -/
theorem startRadius_mirror (arc : Arc ℝ) (axis : Axis) :
    (arc.mirror axis).startRadius = arc.plane.mirror axis arc.startRadius := by
  change (arc.plane.planar (arc.offset.mirror axis)).neg = _
  rw [Plane.planar_mirror, ← Plane.mirror_neg]
  rfl

/-- The center is mirrored. -/
theorem exact_center_mirror (arc : Arc ℝ) (axis : Axis) :
    (arc.mirror axis).center = arc.plane.mirror axis arc.center := by
  change (arc.plane.planar (arc.start.mirror axis)).add
    (arc.plane.planar (arc.offset.mirror axis)) = _
  rw [Plane.planar_mirror, Plane.planar_mirror, ← Plane.exact_mirror_add]
  rfl

/-- The vector to the target is mirrored. -/
theorem exact_targetRadius_mirror (arc : Arc ℝ) (axis : Axis) :
    (arc.mirror axis).targetRadius = arc.plane.mirror axis arc.targetRadius := by
  change (arc.plane.planar (arc.target.mirror axis)).sub (arc.mirror axis).center = _
  rw [Plane.planar_mirror, exact_center_mirror, ← Plane.exact_mirror_sub]
  rfl

/-- The rise is not mirrored. -/
theorem rise_mirror (haxis : axis ≠ arc.plane.perpendicular) :
    (arc.mirror axis).rise = arc.rise := by
  change (arc.target.mirror axis).get arc.plane.perpendicular -
    (arc.start.mirror axis).get arc.plane.perpendicular = _
  rw [PerAxis.get_mirror_of_ne _ haxis.symm, PerAxis.get_mirror_of_ne _ haxis.symm]
  rfl

/-- The radius that comes from the offset is that of the mirrored offset. -/
theorem exact_mirror_ofOffset (start target offset : PerAxis ℝ) (turn : Turn) (plane : Plane)
    (axis : Axis) :
    (ofOffset start target offset turn plane).mirror axis =
      ofOffset (start.mirror axis) (target.mirror axis) (offset.mirror axis) turn.opposite
        plane := by
  have hradius : (plane.planar (offset.mirror axis)).norm = (plane.planar offset).norm := by
    rw [Plane.planar_mirror, Plane.exact_norm_mirror]
  rw [ofOffset, ofOffset, hradius]
  rfl

/-- The counter-clockwise angle of a mirror image is what is missing to a full turn, unless it is
zero. -/
theorem exact_counterClockwiseAngle_mirror (haxis : axis ≠ arc.plane.perpendicular) :
    (arc.mirror axis).counterClockwiseAngle =
      if arc.counterClockwiseAngle = 0 then 0 else 2 * Real.pi - arc.counterClockwiseAngle := by
  have hpi := Real.pi_pos
  have hlower : -Real.pi < arc.startRadius.angleTo arc.targetRadius := Complex.neg_pi_lt_arg _
  have hupper : arc.startRadius.angleTo arc.targetRadius ≤ Real.pi := Complex.arg_le_pi _
  rw [exact_counterClockwiseAngle_eq, exact_counterClockwiseAngle_eq, startRadius_mirror,
    exact_targetRadius_mirror, Plane.exact_angleTo_mirror haxis]
  generalize arc.startRadius.angleTo arc.targetRadius = angle at hlower hupper ⊢
  by_cases hhalf : angle = Real.pi
  · have hpositive : ¬ Real.pi < 0 := not_lt_of_gt hpi
    rw [if_pos hhalf, hhalf, if_neg hpositive, if_neg hpi.ne']
    ring
  rw [if_neg hhalf]
  rcases lt_trichotomy angle 0 with hnegative | hzero | hpositive
  · have hother : ¬ -angle < 0 := by linarith
    have hne : ¬ angle + 2 * Real.pi = 0 := by linarith
    rw [if_neg hother, if_pos hnegative, if_neg hne]
    ring
  · have hnone : ¬ -angle < 0 := by linarith
    have hself : ¬ angle < 0 := by linarith
    rw [if_neg hnone, if_neg hself, if_pos hzero, hzero, neg_zero]
  · have hother : -angle < 0 := by linarith
    have hself : ¬ angle < 0 := by linarith
    rw [if_pos hother, if_neg hself, if_neg hpositive.ne']
    ring

/-- Unless the counter-clockwise angle is zero, a mirror image sweeps the opposite angle. -/
theorem exact_sweep_mirror (haxis : axis ≠ arc.plane.perpendicular)
    (hangle : arc.counterClockwiseAngle ≠ 0) : (arc.mirror axis).sweep = -arc.sweep := by
  have himage := exact_counterClockwiseAngle_mirror haxis
  rw [if_neg hangle] at himage
  cases hturn : arc.turn with
  | counterClockwise =>
    have hopposite : (arc.mirror axis).turn = .clockwise := congrArg Turn.opposite hturn
    rw [exact_sweep_of_clockwise hopposite, sweep_of_counterClockwise hturn, himage]
    ring
  | clockwise =>
    have hopposite : (arc.mirror axis).turn = .counterClockwise := congrArg Turn.opposite hturn
    rw [sweep_of_counterClockwise hopposite, exact_sweep_of_clockwise hturn, himage]
    ring

/-- An arc that sweeps the opposite angle has a path of the same length. -/
theorem exact_length_mirror (haxis : axis ≠ arc.plane.perpendicular)
    (hsweep : (arc.mirror axis).sweep = -arc.sweep) : (arc.mirror axis).length = arc.length := by
  have hhypot (left right : ℝ) : Scalar.hypot (-left) right = Scalar.hypot left right := by
    change √(-left * -left + right * right) = √(left * left + right * right)
    rw [neg_mul_neg]
  have hradius : (arc.mirror axis).radius = arc.radius := rfl
  rw [length, length, hsweep, rise_mirror haxis, hradius, neg_mul, hhypot]

end Arc

namespace ArcPlan

/-- If its mirror image sweeps the opposite angle, an arc is cut like its mirror image. -/
theorem exact_cut_mirror {arc : Arc ℝ} {axis : Axis} (haxis : axis ≠ arc.plane.perpendicular)
    (hsweep : (arc.mirror axis).sweep = -arc.sweep) (rate maxLength : ℝ) (interval : UInt8) :
    cut (arc.mirror axis) rate maxLength interval =
      (cut arc rate maxLength interval).mirror axis := by
  have hshare (segments : UInt32) (travel : ℝ) :
      (if segments = 0 then 0.0 else -travel / Scalar.ofWord segments.toUInt64) =
        -(if segments = 0 then 0.0 else travel / Scalar.ofWord segments.toUInt64) := by
    split
    · norm_num
    · exact neg_div _ _
  simp only [cut, mirror, Arc.exact_length_mirror haxis hsweep, Arc.exact_center_mirror,
    Arc.startRadius_mirror, Arc.rise_mirror haxis, hsweep, mk.injEq, true_and, and_true]
  exact ⟨rfl, rfl, hshare _ _⟩

/-- An approximate turn of the mirror image is mirrored. -/
theorem exact_smallTurn_mirror {plan : ArcPlan ℝ} {axis : Axis}
    (haxis : axis ≠ plan.plane.perpendicular) (radius : Planar ℝ) :
    (plan.mirror axis).smallTurn (plan.plane.mirror axis radius) =
      plan.plane.mirror axis (plan.smallTurn radius) := by
  have hcosine : (plan.mirror axis).smallCosine = plan.smallCosine := by
    simp only [smallCosine, mirror]
    ring
  have hsine : (plan.mirror axis).smallSine = -plan.smallSine := rfl
  rw [smallTurn, hcosine, hsine, Plane.exact_rotate_mirror haxis]
  rfl

/-- An exact radius vector of the mirror image is mirrored. -/
theorem exact_exactRadius_mirror {plan : ArcPlan ℝ} {axis : Axis}
    (haxis : axis ≠ plan.plane.perpendicular) (index : UInt64) :
    (plan.mirror axis).exactRadius index = plan.plane.mirror axis (plan.exactRadius index) := by
  have hcosine (angle : ℝ) : Scalar.cos (-angle) = Scalar.cos angle := Real.cos_neg angle
  have hsine (angle : ℝ) : Scalar.sin (-angle) = -Scalar.sin angle := Real.sin_neg angle
  simp only [exactRadius]
  change (plan.plane.mirror axis plan.startRadius).rotate
    (Scalar.cos (Scalar.ofWord index * -plan.stepAngle))
    (Scalar.sin (Scalar.ofWord index * -plan.stepAngle)) = _
  rw [mul_neg, hcosine, hsine, Plane.exact_rotate_mirror haxis]

end ArcPlan

namespace ArcWalk

variable {arc : ArcWalk ℝ} {axis : Axis}

/-- The radius vector of the mirror image is brought to the mirrored place. -/
theorem exact_advanceRadius_mirror (haxis : axis ≠ arc.plan.plane.perpendicular)
    (index : UInt64) :
    (arc.mirror axis).advanceRadius index = (arc.advanceRadius index).mirror axis := by
  have hturn : (arc.mirror axis).turns < (arc.mirror axis).plan.correctionInterval ↔
      arc.turns < arc.plan.correctionInterval := Iff.rfl
  unfold advanceRadius
  by_cases h : arc.turns < arc.plan.correctionInterval
  · rw [if_pos (hturn.mpr h), if_pos h]
    have hsmall := ArcPlan.exact_smallTurn_mirror haxis arc.radius
    simp only [mirror, hsmall]
  · rw [if_neg (fun himage => h (hturn.mp himage)), if_neg h]
    have hexact := ArcPlan.exact_exactRadius_mirror haxis index
    simp only [mirror, hexact]

/-- The point of the mirror image is brought to the mirrored place. -/
theorem exact_advancePoint_mirror (haxis : axis ≠ arc.plan.plane.perpendicular) :
    (arc.mirror axis).advancePoint = arc.advancePoint.mirror axis := by
  have hpoint : (arc.mirror axis).advancePoint.point = arc.advancePoint.point.mirror axis := by
    have himage := (arc.mirror axis).planar_advancePoint
    have hrise := (arc.mirror axis).perpendicular_advancePoint
    refine PerAxis.ext_plane (himage.trans ?_) (hrise.trans ?_)
    · change (arc.plan.plane.mirror axis arc.plan.center).add
        (arc.plan.plane.mirror axis arc.radius) =
        arc.plan.plane.planar (arc.advancePoint.point.mirror axis)
      rw [← Plane.exact_mirror_add, ← planar_advancePoint, Plane.planar_mirror]
    · change (arc.point.mirror axis).get arc.plan.plane.perpendicular + arc.plan.stepRise =
        (arc.advancePoint.point.mirror axis).get arc.plan.plane.perpendicular
      rw [PerAxis.get_mirror_of_ne _ haxis.symm, PerAxis.get_mirror_of_ne _ haxis.symm,
        perpendicular_advancePoint]
  change { arc.mirror axis with point := (arc.mirror axis).advancePoint.point } = _
  rw [hpoint]
  rfl

/-- The mirror image moves to the mirrored place. -/
theorem exact_moved_mirror (haxis : axis ≠ arc.plan.plane.perpendicular) :
    (arc.mirror axis).moved = arc.moved.mirror axis := by
  let stepped : ArcWalk ℝ := { arc with cursor := arc.cursor + 1 }
  have hstepped : axis ≠ stepped.plan.plane.perpendicular := haxis
  have hturned : axis ≠ (stepped.advanceRadius arc.cursor).plan.plane.perpendicular := by
    rw [advanceRadius_plan]
    exact haxis
  have hradius := exact_advanceRadius_mirror hstepped arc.cursor
  change ((stepped.mirror axis).advanceRadius arc.cursor).advancePoint = _
  rw [hradius, exact_advancePoint_mirror hturned]
  rfl

/-- The mirror image hands out the mirrored waypoint. -/
theorem exact_next_mirror (haxis : axis ≠ arc.plan.plane.perpendicular) :
    (arc.mirror axis).next = (arc.next.1.map (Waypoint.mirror axis), arc.next.2.mirror axis) := by
  refine next_image rfl rfl ?_ rfl
  rw [exact_moved_mirror haxis]
  rfl

/-- The mirror image passes over waypoints to the mirrored place. -/
theorem exact_reached_mirror (haxis : axis ≠ arc.plan.plane.perpendicular) (skipped : UInt64) :
    (arc.mirror axis).reached skipped = (arc.reached skipped).mirror axis := by
  unfold reached
  by_cases hskip : skipped = 0
  · rw [if_pos hskip, if_pos hskip]
  have hheight : (arc.point.mirror axis).get arc.plan.plane.perpendicular =
      arc.point.get arc.plan.plane.perpendicular := PerAxis.get_mirror_of_ne _ haxis.symm
  have hleft : (arc.mirror axis).left = arc.left := rfl
  rw [if_neg hskip, if_neg hskip]
  simp only [skip, hleft]
  simp only [mirror, ArcPlan.mirror, hheight, PerAxis.mirror_set_of_ne _ _ haxis.symm]

/-- A call hands out the mirrored waypoint from the mirror image. -/
theorem exact_nth_mirror (haxis : axis ≠ arc.plan.plane.perpendicular) (skipped : UInt64) :
    (arc.mirror axis).nth skipped =
      ((arc.nth skipped).1.map (Waypoint.mirror axis), (arc.nth skipped).2.mirror axis) := by
  have hreached : axis ≠ (arc.reached skipped).plan.plane.perpendicular := by
    rw [reached_plan]
    exact haxis
  rw [nth_eq_next, nth_eq_next, exact_reached_mirror haxis, exact_next_mirror hreached]

/-- Arcs of a plane show in their mirror images. -/
theorem exact_shows_mirror {plane : Plane} (haxis : axis ≠ plane.perpendicular) :
    WaypointSupply.Shows (fun walk : ArcWalk ℝ => walk.plan.plane = plane) (mirror axis)
      (Waypoint.mirror axis) := by
  refine ⟨fun walk call hplane => ?_, fun walk call hplane => ?_, fun _ => rfl⟩
  · subst hplane
    cases call with
    | next => exact exact_next_mirror haxis
    | nth skipped => exact exact_nth_mirror haxis skipped
  · subst hplane
    cases call with
    | next => exact congrArg ArcPlan.plane walk.next_plan
    | nth skipped => exact congrArg ArcPlan.plane (walk.nth_plan skipped)

/-- Before the first call, too, the mirror image of an arc is at the mirrored place. -/
theorem exact_cut_mirror {arc : Arc ℝ} (haxis : axis ≠ arc.plane.perpendicular)
    (hsweep : (arc.mirror axis).sweep = -arc.sweep) (rate maxLength : ℝ) (interval : UInt8) :
    cut (arc.mirror axis) rate maxLength interval =
      (cut arc rate maxLength interval).mirror axis := by
  have hplan := ArcPlan.exact_cut_mirror haxis hsweep rate maxLength interval
  simp only [cut, hplan]
  rfl

end ArcWalk

namespace Arc

open ArcWalk (unitCircle sweep_unitCircle length_unitCircle plan_unitCircle_radius)
open WaypointSupply (answers)

/-- Mirror images of arcs move along mirror images of their paths. In exact arithmetic, take any arc
with an offset in its plane, and mirror it along either axis of the plane. Unless the target lies on
the ray from the center through the start, the mirror image sweeps the opposite angle, its path is
as long, it is cut into as many segments, and whatever is asked it hands out the mirror images of
the waypoints. If the target lies on that ray, as it does when it is the start, the counter-
clockwise one of the two sweeps nothing and the clockwise one a full turn. -/
theorem exact_mirrored (arc : Arc ℝ) (axis : Axis) (haxis : axis ≠ arc.plane.perpendicular)
    (hoffset : arc.offset.get arc.plane.first ≠ 0 ∨ arc.offset.get arc.plane.second ≠ 0) :
    let image := arc.mirror axis
    (arc = ofOffset arc.start arc.target arc.offset arc.turn arc.plane →
      image = ofOffset image.start image.target image.offset image.turn image.plane) ∧
    (¬ arc.EndsOnStartRay →
      image.sweep = -arc.sweep ∧ image.length = arc.length ∧
      ∀ (rate maxLength : ℝ) (interval : UInt8),
        let fresh := ArcWalk.cut arc rate maxLength interval
        let mirrored := ArcWalk.cut image rate maxLength interval
        mirrored.plan.segments = fresh.plan.segments ∧
        ∀ calls, answers mirrored calls = (answers fresh calls).map fun answer =>
          (answer.1.map (Waypoint.mirror axis), answer.2)) ∧
    (arc.EndsOnStartRay →
      (arc.turn = .counterClockwise → arc.sweep = 0 ∧ image.sweep = -(2 * Real.pi)) ∧
      (arc.turn = .clockwise → arc.sweep = -(2 * Real.pi) ∧ image.sweep = 0)) ∧
    (arc.target = arc.start → arc.EndsOnStartRay) := by
  intro image
  have hray := exact_counterClockwiseAngle_eq_zero_iff (exact_norm_startRadius_ne_zero hoffset)
  have himage : image.counterClockwiseAngle =
      if arc.counterClockwiseAngle = 0 then 0 else 2 * Real.pi - arc.counterClockwiseAngle :=
    exact_counterClockwiseAngle_mirror haxis
  refine ⟨fun hradius => ?_, fun hoff => ?_, fun hon => ⟨fun hturn => ?_, fun hturn => ?_⟩,
    endsOnStartRay_of_closed⟩
  · have hmirror := exact_mirror_ofOffset arc.start arc.target arc.offset arc.turn arc.plane axis
    rw [← hradius] at hmirror
    exact hmirror
  · have hsweep : image.sweep = -arc.sweep :=
      exact_sweep_mirror haxis (fun hzero => hoff (hray.mp hzero))
    refine ⟨hsweep, exact_length_mirror haxis hsweep, fun rate maxLength interval => ?_⟩
    intro fresh mirrored
    have hcut : mirrored = fresh.mirror axis :=
      ArcWalk.exact_cut_mirror haxis hsweep rate maxLength interval
    rw [hcut]
    exact ⟨rfl, (ArcWalk.exact_shows_mirror haxis).answers_eq rfl⟩
  · have hopposite : image.turn = .clockwise := congrArg Turn.opposite hturn
    rw [if_pos (hray.mpr hon)] at himage
    rw [sweep_of_counterClockwise hturn, exact_sweep_of_clockwise hopposite, himage, zero_sub]
    exact ⟨hray.mpr hon, rfl⟩
  · have hopposite : image.turn = .counterClockwise := congrArg Turn.opposite hturn
    rw [if_pos (hray.mpr hon)] at himage
    rw [exact_sweep_of_clockwise hturn, sweep_of_counterClockwise hopposite, hray.mpr hon, zero_sub]
    exact ⟨rfl, himage⟩

/-- A quarter of a circle in the plane of the first and the third axis, mirrored along the third: it
turns the other way, and its waypoints are mirrored. A full circle with the clock is mirrored to
nothing. -/
theorem exact_mirrored_quarter :
    let quarter := betweenAxes .xz .counterClockwise
    let image := quarter.mirror .z
    let fresh := ArcWalk.cut quarter 1 (1 / 2) 25
    let mirrored := ArcWalk.cut image 1 (1 / 2) 25
    Axis.z ≠ quarter.plane.perpendicular ∧
    (quarter.offset.get quarter.plane.first ≠ 0 ∨ quarter.offset.get quarter.plane.second ≠ 0) ∧
    ¬ quarter.EndsOnStartRay ∧ quarter.sweep = Real.pi / 2 ∧ image.sweep = -(Real.pi / 2) ∧
    (answers mirrored [.next, .nth 1] = (answers fresh [.next, .nth 1]).map fun answer =>
      (answer.1.map (Waypoint.mirror .z), answer.2)) ∧
    unitCircle.EndsOnStartRay ∧ unitCircle.sweep = -(2 * Real.pi) ∧
    (unitCircle.mirror .y).sweep = 0 := by
  intro quarter image fresh mirrored
  have haxis : Axis.z ≠ quarter.plane.perpendicular := by decide
  have hoffset : quarter.offset.get quarter.plane.first ≠ 0 ∨
      quarter.offset.get quarter.plane.second ≠ 0 := offset_betweenAxes .xz .counterClockwise
  have hangle : quarter.counterClockwiseAngle = Real.pi / 2 :=
    counterClockwiseAngle_betweenAxes .xz .counterClockwise
  have hoff : ¬ quarter.EndsOnStartRay := by
    rw [← exact_counterClockwiseAngle_eq_zero_iff (exact_norm_startRadius_ne_zero hoffset), hangle]
    exact Real.pi_div_two_pos.ne'
  have hsweep : quarter.sweep = Real.pi / 2 := (sweep_of_counterClockwise rfl).trans hangle
  obtain ⟨-, hmirror, -, -⟩ := exact_mirrored quarter .z haxis hoffset
  obtain ⟨himage, -, hcut⟩ := hmirror hoff
  obtain ⟨-, hanswers⟩ := hcut 1 (1 / 2) 25
  have hcircle : unitCircle.offset.get unitCircle.plane.first ≠ 0 ∨
      unitCircle.offset.get unitCircle.plane.second ≠ 0 := .inl (neg_ne_zero.mpr one_ne_zero)
  obtain ⟨-, -, hray, hclosed⟩ := exact_mirrored unitCircle .y (by decide) hcircle
  have hon : unitCircle.EndsOnStartRay := hclosed rfl
  obtain ⟨hfull, hnone⟩ := (hray hon).2 rfl
  exact ⟨haxis, hoffset, hoff, hsweep, himage.trans (congrArg Neg.neg hsweep), hanswers _, hon,
    hfull, hnone⟩

/-- The mirror image of a full circle with the clock is the circle against it. It is found to have
no path, sweeps nothing instead of a full turn and is cut into no segments instead of six. -/
theorem fullCircle_not_mirrored :
    let image := unitCircle.mirror .y
    (unitCircle.offset.get unitCircle.plane.first ≠ 0 ∨
      unitCircle.offset.get unitCircle.plane.second ≠ 0) ∧
    unitCircle.target = unitCircle.start ∧
    image = ofOffset ⟨1, 0, 0⟩ ⟨1, 0, 0⟩ ⟨-1, 0, 0⟩ .counterClockwise .xy ∧
    unitCircle.sweep = -(2 * Real.pi) ∧ image.sweep = 0 ∧ image.sweep ≠ -unitCircle.sweep ∧
    unitCircle.length = 2 * Real.pi ∧ image.length = 0 ∧
    (ArcPlan.cut unitCircle 1 1 25).segments.toNat = 6 ∧
    (ArcPlan.cut image 1 1 25).segments = 0 := by
  intro image
  have hoffset : unitCircle.offset.get unitCircle.plane.first ≠ 0 ∨
      unitCircle.offset.get unitCircle.plane.second ≠ 0 := .inl (neg_ne_zero.mpr one_ne_zero)
  have hmirror (x : ℝ) : (⟨x, 0, 0⟩ : PerAxis ℝ).mirror .y = ⟨x, 0, 0⟩ := by
    change (⟨x, -0, 0⟩ : PerAxis ℝ) = ⟨x, 0, 0⟩
    rw [neg_zero]
  have himage : image = ofOffset ⟨1, 0, 0⟩ ⟨1, 0, 0⟩ ⟨-1, 0, 0⟩ .counterClockwise .xy := by
    have hofOffset := exact_mirror_ofOffset ⟨1, 0, 0⟩ ⟨1, 0, 0⟩ ⟨-1, 0, 0⟩ .clockwise .xy .y
    rw [hmirror, hmirror] at hofOffset
    exact hofOffset
  have hclosed : image.target = image.start := rfl
  have hstart : image.startRadius.norm ≠ 0 := by
    rw [startRadius_mirror, Plane.exact_norm_mirror]
    exact exact_norm_startRadius_ne_zero hoffset
  have hsweep : image.sweep = 0 := by
    rw [sweep_of_counterClockwise rfl, exact_counterClockwiseAngle_eq_zero_iff hstart]
    exact endsOnStartRay_of_closed hclosed
  have hlength : image.length = 0 := by
    rw [exact_length_eq_zero_iff, hsweep, zero_mul]
    exact ⟨rfl, sub_self _⟩
  have hsegments : (ArcPlan.cut image 1 1 25).segments = 0 := by
    have hzero : (image.length == (0.0 : ℝ)) = true := by
      rw [exact_beq_zero_iff]
      exact hlength
    simp only [ArcPlan.cut]
    rw [if_pos hzero]
  refine ⟨hoffset, rfl, himage, sweep_unitCircle, hsweep, ?_, length_unitCircle, hlength,
    (plan_unitCircle_radius 1 25).1, hsegments⟩
  rw [hsweep, sweep_unitCircle, neg_neg]
  exact Real.two_pi_pos.ne

end Arc

end Toolpath
