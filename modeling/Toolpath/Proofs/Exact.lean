import Mathlib.Analysis.SpecialFunctions.Complex.Arg
import Toolpath.Machine.Dispatcher
import Toolpath.Move.Arc

/-!
# Exact arithmetic

The real numbers are a number type for motion formulas. What is stated about them is free of
rounding, except where a formula itself rounds to a machine word.
-/

namespace Toolpath

noncomputable instance : Scalar ℝ where
  beq x y := decide (x = y)
  decidableLT := inferInstance
  isFinite := fun _ => true
  pi := Real.pi
  abs := fun x => |x|
  sqrt := Real.sqrt
  hypot := fun x y => √(x * x + y * y)
  atan2 := fun y x => Complex.arg ⟨x, y⟩
  cos := Real.cos
  sin := Real.sin
  ofWord := fun word => word.toNat
  whole? := fun x => if x = ⌊x⌋ then some ⌊x⌋ else none
  ceilCount := fun x => UInt32.ofNatClamp ⌈x⌉₊
  floorCount := fun x => UInt32.ofNatClamp ⌊x⌋₊
  nearestStep := fun x => Int32.ofIntClamp (if x < 0 then ⌈x - 1 / 2⌉ else ⌊x + 1 / 2⌋)

/-- Real numbers are compared exactly. -/
theorem exact_beq_iff (x y : ℝ) : (x == y) = true ↔ x = y := decide_eq_true_iff

/-- A number is found to be zero exactly when it is. -/
theorem exact_beq_zero_iff (x : ℝ) : (x == (0.0 : ℝ)) = true ↔ x = 0 := by
  have hzero : (0.0 : ℝ) = 0 := by norm_num
  rw [exact_beq_iff, hzero]

/-- Every positive real number is usable. -/
theorem exact_isPositive_iff (x : ℝ) : Scalar.isPositive x = true ↔ 0 < x := by
  have hfinite : Scalar.isFinite x = true := rfl
  rw [Scalar.isPositive, hfinite, Bool.true_and, decide_eq_true_iff]
  norm_num

/-- A whole number is read as itself. -/
theorem exact_whole?_intCast (n : ℤ) : Scalar.whole? (n : ℝ) = some n := by
  change (if (n : ℝ) = (⌊(n : ℝ)⌋ : ℝ) then some ⌊(n : ℝ)⌋ else none) = some n
  rw [Int.floor_intCast, if_pos rfl]

/-- A hypotenuse has length zero only if both legs have. -/
theorem exact_hypot_eq_zero_iff (x y : ℝ) : Scalar.hypot x y = 0 ↔ x = 0 ∧ y = 0 := by
  have hx := mul_self_nonneg x
  have hy := mul_self_nonneg y
  change √(x * x + y * y) = 0 ↔ _
  rw [Real.sqrt_eq_zero (by positivity)]
  constructor
  · intro h
    have hx0 : x * x = 0 := by linarith
    have hy0 : y * y = 0 := by linarith
    exact ⟨mul_self_eq_zero.mp hx0, mul_self_eq_zero.mp hy0⟩
  · rintro ⟨rfl, rfl⟩
    ring

/-- An arc has length zero only if it neither turns at a distance from its center nor rises. -/
theorem Arc.exact_length_eq_zero_iff (arc : Arc ℝ) :
    arc.length = 0 ↔ arc.sweep * arc.radius = 0 ∧ arc.rise = 0 := by
  have habs : Scalar.abs arc.rise = 0 ↔ arc.rise = 0 := abs_eq_zero
  rw [length, exact_hypot_eq_zero_iff, habs]

namespace PerAxis

/-- A vector has length zero only if it is zero on every axis. -/
theorem exact_norm_eq_zero_iff (vector : PerAxis ℝ) :
    vector.norm = 0 ↔ ∀ axis, vector.get axis = 0 := by
  have hx := mul_self_nonneg vector.x
  have hy := mul_self_nonneg vector.y
  have hz := mul_self_nonneg vector.z
  change √(vector.x * vector.x + vector.y * vector.y + vector.z * vector.z) = 0 ↔ _
  rw [Real.sqrt_eq_zero (by positivity)]
  constructor
  · intro h axis
    have hx0 : vector.x * vector.x = 0 := by linarith
    have hy0 : vector.y * vector.y = 0 := by linarith
    have hz0 : vector.z * vector.z = 0 := by linarith
    cases axis with
    | x => exact mul_self_eq_zero.mp hx0
    | y => exact mul_self_eq_zero.mp hy0
    | z => exact mul_self_eq_zero.mp hz0
  · intro h
    have hx0 : vector.x = 0 := h .x
    have hy0 : vector.y = 0 := h .y
    have hz0 : vector.z = 0 := h .z
    rw [hx0, hy0, hz0]
    ring

/-- Only a point itself lies at distance zero from a point. -/
theorem exact_norm_vectorTo_eq_zero_iff (start target : PerAxis ℝ) :
    (start.vectorTo target).norm = 0 ↔ start = target := by
  rw [exact_norm_eq_zero_iff]
  constructor
  · intro h
    refine ext_get fun axis => ?_
    have haxis := h axis
    rw [vectorTo_get] at haxis
    exact (sub_eq_zero.mp haxis).symm
  · rintro rfl axis
    rw [vectorTo_get]
    exact sub_self _

/-- Every point is near to itself. -/
theorem exact_norm_vectorTo_self_lt (point : PerAxis ℝ) :
    (point.vectorTo point).norm < leastMove := by
  have hzero := (exact_norm_vectorTo_eq_zero_iff point point).mpr rfl
  rw [hzero, leastMove]
  norm_num

end PerAxis

end Toolpath
