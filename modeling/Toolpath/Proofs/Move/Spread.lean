import Mathlib.Data.Real.Basic
import Toolpath.Proofs.Move.Schedule

/-!
# How far the waypoints of an arc spread

In exact arithmetic the schedule of the radius vectors settles how far the waypoints of an arc are
from its center. Each approximate turn leads outward by the same factor, and the radius vectors from
which the turns start are as long as the first one. The path of an arc therefore never comes inside
its circle, and leaves it by no more than one interval allows.
-/

namespace Toolpath

namespace ArcPlan

variable (plan : ArcPlan ℝ)

/-- Turns that are made one after the other multiply the squared length by as many growths. -/
theorem exact_norm_iterate_nearlyTurned_sq (radius : Planar ℝ) (turns : ℕ) :
    ((Planar.nearlyTurned plan.stepAngle)^[turns] radius).norm ^ 2 =
      radius.norm ^ 2 * plan.growth ^ turns := by
  induction turns with
  | zero =>
    rw [pow_zero, mul_one]
    rfl
  | succ turns ih =>
    rw [Function.iterate_succ_apply', ← smallTurn_eq_nearlyTurned, exact_norm_smallTurn_sq, ih,
      pow_succ plan.growth, mul_assoc]

/-- Radius vectors without drift are as long as the first one. -/
theorem exact_norm_trueRadius_sq (index : ℕ) :
    (plan.trueRadius index).norm ^ 2 = plan.startRadius.norm ^ 2 := by
  unfold trueRadius
  split
  · rfl
  · rw [← exactRadius_eq_turned]
    exact plan.exact_norm_exactRadius_sq _

/-- The turns since an exact radius vector settle how long the scheduled one is. -/
theorem exact_norm_scheduledRadius_sq (calls : List UInt64) :
    (plan.scheduledRadius calls).norm ^ 2 = plan.startRadius.norm ^ 2 *
      plan.growth ^ ArcWalk.turnsAfter plan.correctionInterval.toNat calls := by
  rw [scheduledRadius, exact_norm_iterate_nearlyTurned_sq, exact_norm_trueRadius_sq]

end ArcPlan

namespace ArcWalk

/-- Waypoints spread from the circle in powers of one factor. In exact arithmetic, take any arc, cut
by any length and any interval, and any calls. The waypoint that is handed out at an index before
the last one lies some turns behind a radius vector without drift, all of these asked for without
passing over any. Its squared distance from the center is the squared length of the offset in the
plane, multiplied by one factor for each of these turns, which are never more than the interval. No
such waypoint is inside the circle, and none is farther out than the interval allows, however many
segments there are. -/
theorem exact_nth_centerDistance_sq (arc : Arc ℝ) (rate maxLength : ℝ) (interval : UInt8)
    (calls : List UInt64) (skipped : UInt64)
    (h : passedBy calls + skipped.toNat + 1 <
      (cut arc rate maxLength interval).plan.segments.toNat) :
    let fresh := cut arc rate maxLength interval
    let most := fresh.plan.correctionInterval.toNat
    let offset := (arc.plane.planar arc.offset).norm
    let growth := 1 + fresh.plan.stepAngle ^ 4 / 4
    most = max 1 interval.toNat ∧
    ∃ waypoint earlier turns, ((fresh.askAll calls).nth skipped).1 = some waypoint ∧
      calls ++ [skipped] = earlier ++ List.replicate turns 0 ∧
      (fresh.askAll earlier).radius = fresh.plan.trueRadius (passedBy earlier) ∧
      turns = turnsAfter most (calls ++ [skipped]) ∧ turns ≤ most ∧
      arc.centerDistance waypoint.point ^ 2 = offset ^ 2 * growth ^ turns ∧
      offset ^ 2 ≤ arc.centerDistance waypoint.point ^ 2 ∧
      arc.centerDistance waypoint.point ^ 2 ≤ offset ^ 2 * growth ^ most := by
  intro fresh most offset growth
  rw [← passedBy_concat] at h
  have hle : turnsAfter most (calls ++ [skipped]) ≤ most := turnsAfter_le most _
  have hgrowth : 1 ≤ growth := fresh.plan.one_le_growth
  have hoffset : 0 ≤ offset ^ 2 := sq_nonneg offset
  obtain ⟨earlier, hcalls, hexact⟩ := exists_append_replicate most (calls ++ [skipped])
  have hearlier : passedBy earlier < fresh.plan.segments.toNat := by
    rw [hcalls, passedBy_append] at h
    exact Nat.lt_of_le_of_lt (Nat.le_add_right _ _) h
  obtain ⟨hradius, -⟩ := askAll_scheduled (rfl : fresh.cursor = 1) rfl rfl earlier hearlier
  obtain ⟨⟨waypoint, hwaypoint, hfirst, hsecond⟩, -, -, -, hscheduled⟩ :=
    onSchedule (rfl : fresh.cursor = 1) rfl rfl h
  rw [hscheduled] at hfirst hsecond
  have hpoint : fresh.plan.plane.planar waypoint.point =
      fresh.plan.center.add (fresh.plan.scheduledRadius (calls ++ [skipped])) :=
    congrArg₂ Planar.mk hfirst hsecond
  have hdistance : arc.centerDistance waypoint.point ^ 2 =
      offset ^ 2 * growth ^ turnsAfter most (calls ++ [skipped]) := by
    have hlength : arc.centerDistance waypoint.point =
        (fresh.plan.scheduledRadius (calls ++ [skipped])).norm := Arc.exact_centerDistance_eq hpoint
    have hstart : fresh.plan.startRadius.norm = offset := Planar.exact_norm_neg _
    rw [hlength, ArcPlan.exact_norm_scheduledRadius_sq, hstart]
    rfl
  rw [fresh.plan.scheduledRadius_of_turnsAfter_eq_zero hexact] at hradius
  refine ⟨cut_correctionInterval_toNat _ _ _ _, waypoint, earlier, _, hwaypoint, hcalls, hradius,
    rfl, hle, hdistance, ?_, ?_⟩
  · rw [hdistance]
    exact le_mul_of_one_le_right hoffset (one_le_pow₀ hgrowth)
  · rw [hdistance]
    exact mul_le_mul_of_nonneg_left (pow_le_pow_right₀ hgrowth hle) hoffset

/-- The circle of radius one in six segments, exact at every third index: the waypoint behind two
calls lies on it, and the one after that is outside by one turn. -/
theorem exact_nth_centerDistance_sq_unitCircle :
    let fresh := cut unitCircle 1 1 2
    let growth := 1 + fresh.plan.stepAngle ^ 4 / 4
    fresh.plan.segments.toNat = 6 ∧ 1 < growth ∧
    (∃ waypoint, ((fresh.askAll [0, 0]).nth 0).1 = some waypoint ∧
      unitCircle.centerDistance waypoint.point ^ 2 = 1) ∧
    ∃ waypoint, ((fresh.askAll [0, 0, 0]).nth 0).1 = some waypoint ∧
      unitCircle.centerDistance waypoint.point ^ 2 = growth := by
  intro fresh growth
  obtain ⟨hsegments, hgrowth⟩ : fresh.plan.segments.toNat = 6 ∧
      growth = 1 + (2 * Real.pi / (6 : ℕ)) ^ 4 / 4 := plan_unitCircle_radius 1 2
  have hoffset : (unitCircle.plane.planar unitCircle.offset).norm ^ 2 = 1 := by
    have hradius : (unitCircle.plane.planar unitCircle.offset).norm = 1 := radius_unitCircle
    rw [hradius, one_pow]
  have hangle : 0 < (2 * Real.pi / (6 : ℕ)) ^ 4 / 4 := by
    have hpi := Real.pi_pos
    positivity
  refine ⟨hsegments, hgrowth ▸ lt_add_of_pos_right 1 hangle, ?_, ?_⟩
  · obtain ⟨-, waypoint, -, turns, hwaypoint, -, -, hturns, -, hdistance, -⟩ :=
      exact_nth_centerDistance_sq unitCircle 1 1 2 [0, 0] 0 (by
        change 3 < fresh.plan.segments.toNat
        rw [hsegments]
        decide)
    have hnone : turns = 0 := hturns
    rw [hnone, pow_zero, mul_one, hoffset] at hdistance
    exact ⟨waypoint, hwaypoint, hdistance⟩
  · obtain ⟨-, waypoint, -, turns, hwaypoint, -, -, hturns, -, hdistance, -⟩ :=
      exact_nth_centerDistance_sq unitCircle 1 1 2 [0, 0, 0] 0 (by
        change 4 < fresh.plan.segments.toNat
        rw [hsegments]
        decide)
    have hone : turns = 1 := hturns
    rw [hone, pow_one, hoffset, one_mul] at hdistance
    exact ⟨waypoint, hwaypoint, hdistance⟩

end ArcWalk

end Toolpath
