import Mathlib.Analysis.InnerProductSpace.PiL2
import Toolpath.Proofs.Exact

/-!
# Distances in exact arithmetic

Over the real numbers the length of a vector is its Euclidean norm, so that distances between points
obey the triangle inequality and a fraction of a way has that fraction of its length.
-/

namespace Toolpath

namespace PerAxis

/-- A vector as one of Euclidean space. -/
noncomputable def toEuclidean (vector : PerAxis ℝ) : EuclideanSpace ℝ (Fin 3) :=
  (EuclideanSpace.equiv (Fin 3) ℝ).symm ![vector.x, vector.y, vector.z]

/-- The length of a vector is its Euclidean norm. -/
theorem exact_norm_eq (vector : PerAxis ℝ) : vector.norm = ‖vector.toEuclidean‖ := by
  rw [EuclideanSpace.norm_eq, Fin.sum_univ_three]
  simp only [Real.norm_eq_abs, sq_abs]
  simp only [sq]
  rfl

/-- The vector between points is their difference. -/
theorem toEuclidean_vectorTo (start target : PerAxis ℝ) :
    (start.vectorTo target).toEuclidean = target.toEuclidean - start.toEuclidean := by
  ext i
  fin_cases i <;> rfl

/-- A way is not longer than one with a stop. -/
theorem exact_norm_vectorTo_le (start stop target : PerAxis ℝ) :
    (start.vectorTo target).norm ≤ (start.vectorTo stop).norm + (stop.vectorTo target).norm := by
  simp only [exact_norm_eq, toEuclidean_vectorTo]
  rw [add_comm]
  exact norm_sub_le_norm_sub_add_norm_sub _ _ _

/-- Point at a fraction of the way between two points. -/
noncomputable def between (start target : PerAxis ℝ) (fraction : ℝ) : PerAxis ℝ :=
  zipWith (fun s t => s + (t - s) * fraction) start target

/-- A fraction of the way counts on each axis alike. -/
theorem between_get (start target : PerAxis ℝ) (fraction : ℝ) (axis : Axis) :
    (start.between target fraction).get axis =
      start.get axis + (target.get axis - start.get axis) * fraction := by
  rw [between, get_zipWith]

/-- No fraction of the way is the start. -/
theorem between_zero (start target : PerAxis ℝ) : start.between target 0 = start := by
  refine ext_get fun axis => ?_
  rw [between_get, mul_zero, add_zero]

/-- The whole of the way is the target. -/
theorem between_one (start target : PerAxis ℝ) : start.between target 1 = target := by
  refine ext_get fun axis => ?_
  rw [between_get, mul_one, add_sub_cancel]

/-- Points at two fractions of a way are apart by the difference of the fractions. -/
theorem exact_norm_between (start target : PerAxis ℝ) (first second : ℝ) :
    ((start.between target first).vectorTo (start.between target second)).norm =
      |second - first| * (start.vectorTo target).norm := by
  have hvector : ((start.between target first).vectorTo (start.between target second)).toEuclidean =
      (second - first) • (start.vectorTo target).toEuclidean := by
    have haxis (axis : Axis) : ((start.between target first).vectorTo
        (start.between target second)).get axis =
        (second - first) * (start.vectorTo target).get axis := by
      simp only [vectorTo_get, between_get]
      ring
    ext i
    fin_cases i
    · exact haxis .x
    · exact haxis .y
    · exact haxis .z
  rw [exact_norm_eq, hvector, norm_smul, Real.norm_eq_abs, exact_norm_eq]

end PerAxis

end Toolpath
