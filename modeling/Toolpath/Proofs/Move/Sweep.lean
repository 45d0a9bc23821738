import Mathlib.Analysis.SpecialFunctions.Complex.Arg
import Toolpath.Proofs.Move.Drift

/-!
# The sweep of an arc leads to its target

In exact arithmetic the angle between two radius vectors, taken from their cross product and their
inner product, turns the first into the direction of the second. An arc moves this angle by a full
turn at most, into the range of its sense, so that its sweep turns the start radius toward the
target. The segments share the sweep and the rise without a rest.
-/

namespace Toolpath

namespace Planar

/-- Vector in the same direction whose length is multiplied by a factor. -/
def scale {α : Type} [Scalar α] (factor : α) (vector : Planar α) : Planar α :=
  ⟨factor * vector.first, factor * vector.second⟩

/-- Counter-clockwise angle from one vector to another, in the range of the arctangent. -/
noncomputable def angleTo (left right : Planar ℝ) : ℝ :=
  Complex.arg ⟨left.dot right, left.cross right⟩

/-- Inner product and cross product are the legs over which the lengths together are the
hypotenuse. -/
theorem exact_norm_mul_norm (left right : Planar ℝ) :
    ‖(⟨left.dot right, left.cross right⟩ : ℂ)‖ = left.norm * right.norm := by
  have hproduct : 0 ≤ left.norm * right.norm :=
    mul_nonneg left.exact_norm_nonneg right.exact_norm_nonneg
  have hsquare : ‖(⟨left.dot right, left.cross right⟩ : ℂ)‖ ^ 2 =
      (left.norm * right.norm) ^ 2 := by
    rw [mul_pow, exact_norm_sq, exact_norm_sq, Complex.sq_norm, Complex.normSq_mk]
    simp only [dot, cross]
    ring
  exact (pow_left_inj₀ (norm_nonneg _) hproduct two_ne_zero).mp hsquare

/-- The cosine of the angle between vectors is their inner product, shared by their lengths. -/
theorem exact_cos_angleTo (left right : Planar ℝ) :
    left.norm * right.norm * Real.cos (left.angleTo right) = left.dot right := by
  rw [← exact_norm_mul_norm]
  exact Complex.norm_mul_cos_arg _

/-- The sine is their cross product, shared by their lengths. -/
theorem exact_sin_angleTo (left right : Planar ℝ) :
    left.norm * right.norm * Real.sin (left.angleTo right) = left.cross right := by
  rw [← exact_norm_mul_norm]
  exact Complex.norm_mul_sin_arg _

/-- A rotation with multiples of cosine and sine multiplies the rotated vector. -/
theorem exact_rotate_mul (vector : Planar ℝ) (factor cosine sine : ℝ) :
    vector.rotate (factor * cosine) (factor * sine) =
      (vector.rotate cosine sine).scale factor := by
  simp only [rotate, scale, mk.injEq]
  constructor <;> ring

/-- Inner product and cross product with another vector turn a vector into the direction of the
other. -/
theorem exact_rotate_dot_cross (left right : Planar ℝ) :
    left.rotate (left.dot right) (left.cross right) = right.scale (left.norm ^ 2) := by
  rw [exact_norm_sq]
  simp only [rotate, scale, dot, cross, mk.injEq]
  constructor <;> ring

/-- Factors one after the other are multiplied. -/
theorem exact_scale_scale (vector : Planar ℝ) (first second : ℝ) :
    (vector.scale second).scale first = vector.scale (first * second) := by
  simp only [scale, mk.injEq]
  exact ⟨(mul_assoc _ _ _).symm, (mul_assoc _ _ _).symm⟩

/-- A factor of one keeps a vector. -/
theorem exact_scale_one (vector : Planar ℝ) : vector.scale 1 = vector := by
  simp only [scale, one_mul]

/-- Vectors that a factor other than zero makes equal are equal. -/
theorem exact_scale_injective {factor : ℝ} (hfactor : factor ≠ 0) {left right : Planar ℝ}
    (h : left.scale factor = right.scale factor) : left = right := by
  have hback := congrArg (scale factor⁻¹) h
  rwa [exact_scale_scale, exact_scale_scale, inv_mul_cancel₀ hfactor, exact_scale_one,
    exact_scale_one] at hback

/-- A vector that is turned by its angle to another has the direction of the other, and keeps its
own length. -/
theorem exact_rotate_angleTo {left right : Planar ℝ} (hleft : left.norm ≠ 0)
    (hright : right.norm ≠ 0) :
    left.rotate (Real.cos (left.angleTo right)) (Real.sin (left.angleTo right)) =
      right.scale (left.norm / right.norm) := by
  have hratio : left.norm * right.norm * (left.norm / right.norm) = left.norm ^ 2 := by
    rw [mul_assoc, mul_div_cancel₀ _ hright, sq]
  refine exact_scale_injective (mul_ne_zero hleft hright) ?_
  rw [← exact_rotate_mul, exact_cos_angleTo, exact_sin_angleTo, exact_rotate_dot_cross,
    exact_scale_scale, hratio]

end Planar

namespace Arc

/-- The counter-clockwise angle of an arc is that between its radius vectors, a full turn later if
it is below zero. -/
theorem exact_counterClockwiseAngle_eq (arc : Arc ℝ) :
    arc.counterClockwiseAngle =
      if arc.startRadius.angleTo arc.targetRadius < 0 then
        arc.startRadius.angleTo arc.targetRadius + 2 * Real.pi
      else arc.startRadius.angleTo arc.targetRadius := by
  have hzero : (0.0 : ℝ) = 0 := by norm_num
  have htwo : (2.0 : ℝ) = 2 := by norm_num
  have hpi : (Scalar.pi : ℝ) = Real.pi := rfl
  have hangle : Scalar.atan2 (arc.startRadius.cross arc.targetRadius)
      (arc.startRadius.dot arc.targetRadius) = arc.startRadius.angleTo arc.targetRadius := rfl
  simp only [counterClockwiseAngle]
  rw [hangle, hzero, htwo, hpi]

/-- A counter-clockwise arc sweeps its counter-clockwise angle. -/
theorem sweep_of_counterClockwise {α : Type} [Scalar α] {arc : Arc α}
    (h : arc.turn = .counterClockwise) : arc.sweep = arc.counterClockwiseAngle := by
  rw [sweep, h]

/-- A clockwise arc sweeps a full turn less. -/
theorem exact_sweep_of_clockwise {arc : Arc ℝ} (h : arc.turn = .clockwise) :
    arc.sweep = arc.counterClockwiseAngle - 2 * Real.pi := by
  have htwo : (2.0 : ℝ) = 2 := by norm_num
  have hpi : (Scalar.pi : ℝ) = Real.pi := rfl
  rw [sweep, h]
  dsimp only
  rw [htwo, hpi]

/-- The counter-clockwise angle is at least zero and less than a full turn. -/
theorem exact_counterClockwiseAngle_mem (arc : Arc ℝ) :
    0 ≤ arc.counterClockwiseAngle ∧ arc.counterClockwiseAngle < 2 * Real.pi := by
  have hpi := Real.pi_pos
  have hlower : -Real.pi < arc.startRadius.angleTo arc.targetRadius := Complex.neg_pi_lt_arg _
  have hupper : arc.startRadius.angleTo arc.targetRadius ≤ Real.pi := Complex.arg_le_pi _
  rw [exact_counterClockwiseAngle_eq]
  split <;> constructor <;> linarith

/-- The sweep of an arc is the angle between its radius vectors up to full turns, so that both turn
a vector alike. -/
theorem exact_cos_sin_sweep (arc : Arc ℝ) :
    Real.cos arc.sweep = Real.cos (arc.startRadius.angleTo arc.targetRadius) ∧
      Real.sin arc.sweep = Real.sin (arc.startRadius.angleTo arc.targetRadius) := by
  have hangle : Real.cos arc.counterClockwiseAngle =
        Real.cos (arc.startRadius.angleTo arc.targetRadius) ∧
      Real.sin arc.counterClockwiseAngle =
        Real.sin (arc.startRadius.angleTo arc.targetRadius) := by
    rw [exact_counterClockwiseAngle_eq]
    split
    · exact ⟨Real.cos_add_two_pi _, Real.sin_add_two_pi _⟩
    · exact ⟨rfl, rfl⟩
  cases hturn : arc.turn with
  | counterClockwise =>
    rw [sweep_of_counterClockwise hturn]
    exact hangle
  | clockwise =>
    rw [exact_sweep_of_clockwise hturn, Real.cos_sub_two_pi, Real.sin_sub_two_pi]
    exact hangle

/-- The sweep turns the start radius toward the target. -/
theorem exact_rotate_sweep {arc : Arc ℝ} (hstart : arc.startRadius.norm ≠ 0)
    (htarget : arc.targetRadius.norm ≠ 0) :
    arc.startRadius.rotate (Scalar.cos arc.sweep) (Scalar.sin arc.sweep) =
      arc.targetRadius.scale (arc.startRadius.norm / arc.targetRadius.norm) := by
  obtain ⟨hcosine, hsine⟩ := arc.exact_cos_sin_sweep
  change arc.startRadius.rotate (Real.cos arc.sweep) (Real.sin arc.sweep) = _
  rw [hcosine, hsine, Planar.exact_rotate_angleTo hstart htarget]

/-- The target lies at the end of its radius vector. -/
theorem exact_center_add_targetRadius (arc : Arc ℝ) :
    arc.center.add arc.targetRadius = arc.plane.planar arc.target := by
  simp only [targetRadius, Planar.add, Planar.sub, add_sub_cancel]

end Arc

namespace ArcPlan

variable {arc : Arc ℝ} {rate maxLength : ℝ} {interval : UInt8}

/-- All segments of an arc together make its sweep and its rise. -/
theorem exact_cut_shares_mul (h : 0 < (cut arc rate maxLength interval).segments.toNat) :
    (cut arc rate maxLength interval).stepAngle *
        (cut arc rate maxLength interval).segments.toNat = arc.sweep ∧
      (cut arc rate maxLength interval).stepRise *
        (cut arc rate maxLength interval).segments.toNat = arc.rise := by
  have hne : ((cut arc rate maxLength interval).segments.toNat : ℝ) ≠ 0 :=
    Nat.cast_ne_zero.mpr (Nat.ne_of_gt h)
  obtain ⟨hangle, hrise⟩ := exact_cut_shares h
  rw [hangle, hrise, div_mul_cancel₀ _ hne, div_mul_cancel₀ _ hne]
  exact ⟨rfl, rfl⟩

/-- The exact radius vector of the last index is the start radius, turned by the whole sweep. -/
theorem exact_exactRadius_last (h : 0 < (cut arc rate maxLength interval).segments.toNat) :
    (cut arc rate maxLength interval).exactRadius
        (cut arc rate maxLength interval).segments.toUInt64 =
      arc.startRadius.rotate (Scalar.cos arc.sweep) (Scalar.sin arc.sweep) := by
  have hword : (Scalar.ofWord (cut arc rate maxLength interval).segments.toUInt64 : ℝ) =
      (cut arc rate maxLength interval).segments.toNat := by
    change ((cut arc rate maxLength interval).segments.toUInt64.toNat : ℝ) = _
    rw [UInt32.toNat_toUInt64]
  have hangle := (exact_cut_shares_mul h).1
  rw [mul_comm, ← hword] at hangle
  simp only [exactRadius]
  rw [hangle]
  rfl

/-- If the target is as far from the center as the start, it is where the exact rotation of the last
index leads. -/
theorem exact_exactRadius_last_of_circle
    (h : 0 < (cut arc rate maxLength interval).segments.toNat)
    (hstart : arc.startRadius.norm ≠ 0) (hcircle : arc.targetRadius.norm = arc.startRadius.norm) :
    (cut arc rate maxLength interval).exactRadius
      (cut arc rate maxLength interval).segments.toUInt64 = arc.targetRadius := by
  have htarget : arc.targetRadius.norm ≠ 0 := hcircle ▸ hstart
  rw [exact_exactRadius_last h, Arc.exact_rotate_sweep hstart htarget, hcircle, div_self hstart,
    Planar.exact_scale_one]

end ArcPlan

namespace Arc

/-- The sweep of an arc leads from its start to its target. In exact arithmetic, take any arc whose
start and target both lie away from its center, in its plane. Turned by the sweep, the vector to the
start points to the target. The sweep is in the range of the sense of the turn, and the two senses
are a full turn apart. However the arc is cut, its segments make up the sweep and the rise without a
rest. If the target lies on the circle, the exact radius vector of the last index and the rises of
all segments lead to the target itself. -/
theorem exact_sweep_leads (arc : Arc ℝ)
    (hoffset : arc.offset.get arc.plane.first ≠ 0 ∨ arc.offset.get arc.plane.second ≠ 0)
    (htarget : arc.centerDistance arc.target ≠ 0) :
    let radius := (arc.plane.planar arc.offset).norm
    let ratio := radius / arc.centerDistance arc.target
    let counterClockwise : Arc ℝ := { arc with turn := .counterClockwise }
    let clockwise : Arc ℝ := { arc with turn := .clockwise }
    0 < ratio ∧
    arc.startRadius.rotate (Scalar.cos arc.sweep) (Scalar.sin arc.sweep) =
      arc.targetRadius.scale ratio ∧
    0 ≤ counterClockwise.sweep ∧ counterClockwise.sweep < 2 * Real.pi ∧
    -(2 * Real.pi) ≤ clockwise.sweep ∧ clockwise.sweep < 0 ∧
    counterClockwise.sweep - clockwise.sweep = 2 * Real.pi ∧
    ∀ (rate maxLength : ℝ) (interval : UInt8),
      let plan := ArcPlan.cut arc rate maxLength interval
      let segments := plan.segments.toNat
      0 < segments →
        plan.stepAngle * segments = arc.sweep ∧ plan.stepRise * segments = arc.rise ∧
        (arc.centerDistance arc.target = radius →
          plan.center.add (plan.exactRadius plan.segments.toUInt64) =
            arc.plane.planar arc.target ∧
          arc.start.get arc.plane.perpendicular + segments * plan.stepRise =
            arc.target.get arc.plane.perpendicular) := by
  intro radius ratio counterClockwise clockwise
  have hstart : arc.startRadius.norm ≠ 0 := exact_norm_startRadius_ne_zero hoffset
  have hradius : arc.startRadius.norm = radius := Planar.exact_norm_neg _
  have hratio : 0 < ratio := by
    rw [hradius] at hstart
    exact div_pos ((Planar.exact_norm_nonneg _).lt_of_ne' hstart)
      ((Planar.exact_norm_nonneg _).lt_of_ne' htarget)
  have hleads := exact_rotate_sweep hstart htarget
  rw [hradius] at hleads
  have hsweep : counterClockwise.sweep = arc.counterClockwiseAngle :=
    sweep_of_counterClockwise rfl
  have hclockwise : clockwise.sweep = arc.counterClockwiseAngle - 2 * Real.pi :=
    exact_sweep_of_clockwise rfl
  obtain ⟨hlower, hupper⟩ := arc.exact_counterClockwiseAngle_mem
  rw [hsweep, hclockwise]
  refine ⟨hratio, hleads, hlower, hupper, by linarith, by linarith, by ring, ?_⟩
  intro rate maxLength interval plan segments hsegments
  obtain ⟨hangle, hrise⟩ := ArcPlan.exact_cut_shares_mul hsegments
  refine ⟨hangle, hrise, fun hcircle => ⟨?_, ?_⟩⟩
  · have hlast := ArcPlan.exact_exactRadius_last_of_circle hsegments hstart
      (hcircle.trans hradius.symm)
    change arc.center.add (plan.exactRadius plan.segments.toUInt64) = _
    rw [hlast, exact_center_add_targetRadius]
  · rw [mul_comm, hrise]
    exact add_sub_cancel _ _

/-- An arc of radius one around the origin, from the first axis of its plane to the second. -/
noncomputable def betweenAxes (plane : Plane) (turn : Turn) : Arc ℝ :=
  .ofOffset ((PerAxis.uniform 0).set plane.first 1) ((PerAxis.uniform 0).set plane.second 1)
    ((PerAxis.uniform 0).set plane.first (-1)) turn plane

/-- Its offset is in the plane. -/
theorem offset_betweenAxes (plane : Plane) (turn : Turn) :
    (betweenAxes plane turn).offset.get plane.first ≠ 0 ∨
      (betweenAxes plane turn).offset.get plane.second ≠ 0 := by
  have hfirst : (betweenAxes plane turn).offset.get plane.first = -1 := PerAxis.get_set_self _ _ _
  exact .inl (hfirst ▸ neg_ne_zero.mpr one_ne_zero)

/-- It starts at the end of the first axis and leads to the end of the second. -/
theorem radii_betweenAxes (plane : Plane) (turn : Turn) :
    (betweenAxes plane turn).startRadius = ⟨1, 0⟩ ∧
      (betweenAxes plane turn).targetRadius = ⟨0, 1⟩ := by
  have hne := plane.first_ne_second
  simp only [betweenAxes, ofOffset, startRadius, targetRadius, center, Plane.planar, Planar.neg,
    Planar.add, Planar.sub, PerAxis.get_set_self, PerAxis.get_set_of_ne _ _ hne,
    PerAxis.get_set_of_ne _ _ hne.symm, PerAxis.get_uniform, Planar.mk.injEq]
  norm_num

/-- Both radius vectors have the length one. -/
theorem norm_radii_betweenAxes (plane : Plane) (turn : Turn) :
    (betweenAxes plane turn).startRadius.norm = 1 ∧
      (betweenAxes plane turn).targetRadius.norm = 1 := by
  obtain ⟨hstart, htarget⟩ := radii_betweenAxes plane turn
  rw [hstart, htarget]
  change √((1 : ℝ) * 1 + 0 * 0) = 1 ∧ √((0 : ℝ) * 0 + 1 * 1) = 1
  norm_num

/-- Against the clock it is a quarter of a circle. -/
theorem counterClockwiseAngle_betweenAxes (plane : Plane) (turn : Turn) :
    (betweenAxes plane turn).counterClockwiseAngle = Real.pi / 2 := by
  obtain ⟨hstart, htarget⟩ := radii_betweenAxes plane turn
  have hquarter : (⟨1, 0⟩ : Planar ℝ).angleTo ⟨0, 1⟩ = Real.pi / 2 := by
    have hlegs : (⟨(⟨1, 0⟩ : Planar ℝ).dot ⟨0, 1⟩, (⟨1, 0⟩ : Planar ℝ).cross ⟨0, 1⟩⟩ : ℂ) =
        Complex.I := by
      apply Complex.ext <;> simp only [Planar.dot, Planar.cross, Complex.I_re, Complex.I_im] <;>
        norm_num
    rw [Planar.angleTo, hlegs, Complex.arg_I]
  have hpositive : ¬ Real.pi / 2 < 0 := not_lt_of_ge (by positivity)
  rw [exact_counterClockwiseAngle_eq, hstart, htarget, hquarter, if_neg hpositive]

/-- Its radius is one. -/
theorem radius_betweenAxes (plane : Plane) (turn : Turn) : (betweenAxes plane turn).radius = 1 := by
  have hlength : (betweenAxes plane turn).startRadius.norm = (betweenAxes plane turn).radius :=
    exact_norm_startRadius _ _ _ _ _
  rw [← hlength, (norm_radii_betweenAxes plane turn).1]

/-- It does not rise. -/
theorem rise_betweenAxes (plane : Plane) (turn : Turn) : (betweenAxes plane turn).rise = 0 := by
  have hfirst := plane.first_ne_perpendicular.symm
  have hsecond := plane.second_ne_perpendicular.symm
  simp only [rise, betweenAxes, ofOffset, PerAxis.get_set_of_ne _ _ hfirst,
    PerAxis.get_set_of_ne _ _ hsecond, PerAxis.get_uniform, sub_self]

/-- Its path is as long as its sweep. -/
theorem length_betweenAxes (plane : Plane) (turn : Turn) :
    (betweenAxes plane turn).length = |(betweenAxes plane turn).sweep| := by
  have hrise : Scalar.abs (0 : ℝ) = 0 := abs_zero
  rw [length, radius_betweenAxes, rise_betweenAxes, hrise, mul_one]
  change √((betweenAxes plane turn).sweep * (betweenAxes plane turn).sweep + 0 * 0) = _
  rw [mul_zero, add_zero, Real.sqrt_mul_self_eq_abs]

/-- With the clock the way from one axis to the next is three quarters of a circle. Cut by its
radius it has four segments, and the exact radius vector of the last one leads to the target. -/
theorem exact_sweep_leads_threeQuarters :
    let arc := betweenAxes .yz .clockwise
    let plan := ArcPlan.cut arc 1 1 25
    (arc.offset.get Plane.yz.first ≠ 0 ∨ arc.offset.get Plane.yz.second ≠ 0) ∧
    arc.centerDistance arc.target ≠ 0 ∧ arc.sweep = -(3 * Real.pi / 2) ∧
    plan.segments.toNat = 4 ∧ plan.stepAngle * (4 : ℕ) = -(3 * Real.pi / 2) ∧
    plan.center.add (plan.exactRadius 4) = ⟨0, 1⟩ := by
  intro arc plan
  have hoffset : arc.offset.get Plane.yz.first ≠ 0 ∨ arc.offset.get Plane.yz.second ≠ 0 :=
    offset_betweenAxes .yz .clockwise
  have hdistance : arc.centerDistance arc.target = 1 :=
    (norm_radii_betweenAxes .yz .clockwise).2
  have hradius : (arc.plane.planar arc.offset).norm = 1 := radius_betweenAxes .yz .clockwise
  have hsweep : arc.sweep = -(3 * Real.pi / 2) := by
    rw [exact_sweep_of_clockwise rfl, counterClockwiseAngle_betweenAxes]
    ring
  have hlength : arc.length = 3 * Real.pi / 2 := by
    have hnonneg : 0 ≤ 3 * Real.pi / 2 := by positivity
    rw [length_betweenAxes, hsweep, abs_neg, abs_of_nonneg hnonneg]
  have hsegments : plan.segments.toNat = 4 := by
    have hlower := Real.pi_gt_three
    have hupper := Real.pi_lt_d2
    refine ArcPlan.exact_cut_segments 1 25 ?_ ?_ (by norm_num) (by decide)
    · rw [hlength]
      positivity
    · rw [hlength, div_one, Nat.floor_eq_iff (by positivity)]
      constructor <;> norm_num <;> linarith
  obtain ⟨-, -, -, -, -, -, -, hcut⟩ := exact_sweep_leads arc hoffset (by rw [hdistance]; norm_num)
  obtain ⟨hangle, -, hlast⟩ := hcut 1 1 25 (hsegments ▸ by norm_num)
  obtain ⟨hplanar, -⟩ := hlast (hdistance.trans hradius.symm)
  have hword : plan.segments.toUInt64 = 4 := by
    rw [← UInt64.toNat_inj, UInt32.toNat_toUInt64]
    exact hsegments
  have hend : arc.plane.planar arc.target = ⟨0, 1⟩ := rfl
  rw [hsegments, hsweep] at hangle
  rw [hword, hend] at hplanar
  exact ⟨hoffset, by rw [hdistance]; norm_num, hsweep, hsegments, hangle, hplanar⟩

end Arc

end Toolpath
