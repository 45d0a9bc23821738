import Toolpath.Proofs.Exact

/-!
# Circles in exact arithmetic

Over the real numbers a rotation multiplies the length of a vector by the length of its cosine and
sine taken together, which is one for a true angle. A point is near to the circle of an arc when its
distance from the center is the radius up to one part in a thousand.
-/

namespace Toolpath

namespace Planar

/-- The squared length of a vector is the sum of its squared coordinates. -/
theorem exact_norm_sq (vector : Planar ℝ) :
    vector.norm ^ 2 = vector.first ^ 2 + vector.second ^ 2 := by
  have hfirst := mul_self_nonneg vector.first
  have hsecond := mul_self_nonneg vector.second
  change √(vector.first * vector.first + vector.second * vector.second) ^ 2 = _
  rw [Real.sq_sqrt (by positivity)]
  ring

/-- No vector has a negative length. -/
theorem exact_norm_nonneg (vector : Planar ℝ) : 0 ≤ vector.norm := Real.sqrt_nonneg _

/-- The opposite vector has the same length. -/
theorem exact_norm_neg (vector : Planar ℝ) : vector.neg.norm = vector.norm := by
  change √(-vector.first * -vector.first + -vector.second * -vector.second) =
    √(vector.first * vector.first + vector.second * vector.second)
  rw [neg_mul_neg, neg_mul_neg]

/-- A rotation multiplies the squared length by the squares of cosine and sine together. -/
theorem exact_norm_rotate_sq (vector : Planar ℝ) (cosine sine : ℝ) :
    (vector.rotate cosine sine).norm ^ 2 = vector.norm ^ 2 * (cosine ^ 2 + sine ^ 2) := by
  rw [exact_norm_sq, exact_norm_sq]
  change (vector.first * cosine - vector.second * sine) ^ 2 +
    (vector.first * sine + vector.second * cosine) ^ 2 = _
  ring

/-- What was added is left when the other summand is taken away. -/
theorem exact_add_sub (left right : Planar ℝ) : (left.add right).sub left = right := by
  have hfirst : left.first + right.first - left.first = right.first := add_sub_cancel_left _ _
  have hsecond : left.second + right.second - left.second = right.second := add_sub_cancel_left _ _
  rw [sub, add, hfirst, hsecond]

end Planar

namespace Arc

/-- Distance of a point from the center, in the plane of the arc. -/
def centerDistance {α : Type} [Scalar α] (arc : Arc α) (point : PerAxis α) : α :=
  ((arc.plane.planar point).sub arc.center).norm

/-- A point at the end of a vector from the center is as far from it as the vector is long. -/
theorem exact_centerDistance_eq {arc : Arc ℝ} {point : PerAxis ℝ} {radius : Planar ℝ}
    (h : arc.plane.planar point = arc.center.add radius) :
    arc.centerDistance point = radius.norm := by
  rw [centerDistance, h, Planar.exact_add_sub]

/-- The distance of a point from the center is the radius up to one part in a thousand. -/
def IsNearCircle (arc : Arc ℝ) (point : PerAxis ℝ) : Prop :=
  |arc.centerDistance point - arc.radius| < 1 / 1000 * arc.radius

/-- The start of an arc is at its radius from the center, if the radius comes from the offset. -/
theorem exact_norm_startRadius (start target offset : PerAxis ℝ) (turn : Turn) (plane : Plane) :
    (ofOffset start target offset turn plane).startRadius.norm =
      (ofOffset start target offset turn plane).radius := Planar.exact_norm_neg _

/-- An offset in the plane keeps the start away from the center. -/
theorem exact_norm_startRadius_ne_zero {arc : Arc ℝ}
    (hoffset : arc.offset.get arc.plane.first ≠ 0 ∨ arc.offset.get arc.plane.second ≠ 0) :
    arc.startRadius.norm ≠ 0 := by
  have hlength : arc.startRadius.norm = (arc.plane.planar arc.offset).norm :=
    Planar.exact_norm_neg _
  rw [hlength]
  intro hzero
  obtain ⟨hfirst, hsecond⟩ := (exact_hypot_eq_zero_iff _ _).mp hzero
  exact hoffset.elim (fun h => h hfirst) (fun h => h hsecond)

/-- In exact arithmetic nothing is swept counter-clockwise by an arc that ends where it starts, seen
from its center. -/
theorem exact_counterClockwiseAngle_of_closed {arc : Arc ℝ}
    (h : arc.targetRadius = arc.startRadius) : arc.counterClockwiseAngle = 0 := by
  have hcross : arc.startRadius.cross arc.startRadius = 0 := by
    rw [Planar.cross]
    ring
  have hdot : 0 ≤ arc.startRadius.dot arc.startRadius :=
    add_nonneg (mul_self_nonneg _) (mul_self_nonneg _)
  have hangle : Scalar.atan2 (0 : ℝ) (arc.startRadius.dot arc.startRadius) = 0 :=
    Complex.arg_ofReal_of_nonneg hdot
  rw [counterClockwiseAngle, h, hcross, hangle]
  norm_num

/-- A point that is farther from the center by some factor is near to the circle exactly when the
factor is small enough. -/
theorem isNearCircle_iff {arc : Arc ℝ} {point : PerAxis ℝ} {factor : ℝ} (hradius : 0 < arc.radius)
    (hfactor : 1 ≤ factor) (hdistance : arc.centerDistance point ^ 2 = arc.radius ^ 2 * factor) :
    arc.IsNearCircle point ↔ factor < (1001 / 1000) ^ 2 := by
  have hnonneg : 0 ≤ arc.centerDistance point := Planar.exact_norm_nonneg _
  have hsquare : 0 < arc.radius ^ 2 := pow_pos hradius 2
  have houter : arc.radius ≤ arc.centerDistance point := by
    rw [← pow_le_pow_iff_left₀ hradius.le hnonneg two_ne_zero, hdistance]
    exact le_mul_of_one_le_right hsquare.le hfactor
  have habs : |arc.centerDistance point - arc.radius| = arc.centerDistance point - arc.radius :=
    abs_of_nonneg (sub_nonneg.mpr houter)
  have hlinear : arc.centerDistance point - arc.radius < 1 / 1000 * arc.radius ↔
      arc.centerDistance point < arc.radius * (1001 / 1000) := by
    constructor <;> intro h <;> linarith
  have hbound : 0 ≤ arc.radius * (1001 / 1000) := by positivity
  rw [IsNearCircle, habs, hlinear, ← pow_lt_pow_iff_left₀ hnonneg hbound two_ne_zero, hdistance,
    mul_pow, mul_lt_mul_iff_right₀ hsquare]

end Arc

end Toolpath
