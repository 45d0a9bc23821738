import Mathlib.Analysis.Real.Pi.Bounds
import Toolpath.Proofs.Circle
import Toolpath.Proofs.Configuration.Usable
import Toolpath.Proofs.Move.Calls

/-!
# How far arcs drift from their circle

In exact arithmetic every approximate turn takes the radius vector farther out by one and the same
factor, and an exact one brings it back to the circle. How far a waypoint is from the center thus
follows from the angle of a segment and from the turns since the last exact radius vector, and from
nothing else. Fine arcs stay near to their circle; coarse ones do not.
-/

namespace Toolpath

namespace ArcPlan

/-- In exact arithmetic an arc with a path is cut into as many segments as whole greatest lengths
fit it, if these are at least one and a word can hold their number. -/
theorem exact_cut_segments {arc : Arc ℝ} {maxLength : ℝ} {count : ℕ} (rate : ℝ) (interval : UInt8)
    (hpath : arc.length ≠ 0) (hfloor : ⌊arc.length / maxLength⌋₊ = count) (hpos : 0 < count)
    (hword : count < UInt32.size) : (cut arc rate maxLength interval).segments.toNat = count := by
  have hcount : (Scalar.floorCount (arc.length / maxLength)).toNat = count := by
    change (UInt32.ofNatClamp ⌊arc.length / maxLength⌋₊).toNat = count
    rw [hfloor, UInt32.ofNatClamp, dif_pos hword, UInt32.toNat_ofNatLT]
  have hne : ¬ (arc.length == (0.0 : ℝ)) = true := by
    rw [exact_beq_zero_iff]
    exact hpath
  simp only [cut]
  rw [if_neg hne, atLeastOne_of_pos (hcount ▸ hpos), hcount]

/-- In exact arithmetic the segments of an arc share its sweep and its rise. -/
theorem exact_cut_shares {arc : Arc ℝ} {rate maxLength : ℝ} {interval : UInt8}
    (h : 0 < (cut arc rate maxLength interval).segments.toNat) :
    (cut arc rate maxLength interval).stepAngle =
        arc.sweep / (cut arc rate maxLength interval).segments.toNat ∧
      (cut arc rate maxLength interval).stepRise =
        arc.rise / (cut arc rate maxLength interval).segments.toNat := by
  have hne : (cut arc rate maxLength interval).segments ≠ 0 := by
    intro hzero
    rw [hzero] at h
    exact Nat.lt_irrefl 0 h
  have hword (segments : UInt32) : (Scalar.ofWord segments.toUInt64 : ℝ) = segments.toNat := by
    change (segments.toUInt64.toNat : ℝ) = segments.toNat
    rw [UInt32.toNat_toUInt64]
  rw [cut_stepAngle, cut_stepRise, if_neg hne, if_neg hne, hword]
  exact ⟨rfl, rfl⟩

/-- What an approximate turn makes of the squared length of a radius vector. -/
noncomputable def growth (plan : ArcPlan ℝ) : ℝ := 1 + plan.stepAngle ^ 4 / 4

/-- No turn leads toward the center. -/
theorem one_le_growth (plan : ArcPlan ℝ) : 1 ≤ plan.growth := by
  have hangle : 0 ≤ plan.stepAngle ^ 4 := by positivity
  rw [growth]
  linarith

/-- The approximate cosine is one less half the squared angle. -/
theorem exact_smallCosine (plan : ArcPlan ℝ) : plan.smallCosine = 1 - plan.stepAngle ^ 2 / 2 := by
  rw [smallCosine]
  norm_num
  ring

/-- An approximate turn makes the squared length of a radius vector grow. -/
theorem exact_norm_smallTurn_sq (plan : ArcPlan ℝ) (radius : Planar ℝ) :
    (plan.smallTurn radius).norm ^ 2 = radius.norm ^ 2 * plan.growth := by
  have hfactor : plan.smallCosine ^ 2 + plan.smallSine ^ 2 = plan.growth := by
    rw [exact_smallCosine, smallSine, growth]
    ring
  rw [smallTurn, Planar.exact_norm_rotate_sq, hfactor]

/-- An exact radius vector is as long as the first one. -/
theorem exact_norm_exactRadius_sq (plan : ArcPlan ℝ) (index : UInt64) :
    (plan.exactRadius index).norm ^ 2 = plan.startRadius.norm ^ 2 := by
  have hfactor (angle : ℝ) : Scalar.cos angle ^ 2 + Scalar.sin angle ^ 2 = 1 :=
    Real.cos_sq_add_sin_sq angle
  rw [exactRadius, Planar.exact_norm_rotate_sq, hfactor, mul_one]

end ArcPlan

namespace ArcWalk

/-- The radius vector of an arc has been turned approximately a number of times since an exact
one. -/
structure Drifted (plan : ArcPlan ℝ) (turns : ℕ) (walk : ArcWalk ℝ) : Prop where
  /-- The fixed part is that of the plan. -/
  plan_eq : walk.plan = plan
  /-- The turns have been counted. -/
  turns_eq : walk.turns.toNat = turns
  /-- Each turn made the radius vector grow. -/
  radius_sq : walk.radius.norm ^ 2 = plan.startRadius.norm ^ 2 * plan.growth ^ turns

variable {plan : ArcPlan ℝ} {turns : ℕ} {walk : ArcWalk ℝ}

/-- An arc that was cut has not drifted. -/
theorem drifted_cut (arc : Arc ℝ) (rate maxLength : ℝ) (interval : UInt8) :
    Drifted (ArcPlan.cut arc rate maxLength interval) 0 (cut arc rate maxLength interval) := by
  refine ⟨rfl, rfl, ?_⟩
  rw [pow_zero, mul_one]
  rfl

/-- At the end of an interval the next radius vector is exact. -/
theorem drifted_moved_of_not_lt (hplan : walk.plan = plan)
    (h : ¬ walk.turns < walk.plan.correctionInterval) : Drifted plan 0 walk.moved := by
  obtain ⟨hradius, hturns⟩ := moved_of_not_turns_lt h
  refine ⟨walk.moved_plan.trans hplan, congrArg UInt8.toNat hturns, ?_⟩
  rw [hradius, hplan, ArcPlan.exact_norm_exactRadius_sq, pow_zero, mul_one]

/-- An intermediate waypoint after which none is passed over adds a turn, or makes the radius vector
exact. -/
theorem Drifted.moved (h : Drifted plan turns walk) :
    Drifted plan (turnsNext plan.correctionInterval.toNat turns 0) walk.moved := by
  have hlt : turns < plan.correctionInterval.toNat ↔
      walk.turns < walk.plan.correctionInterval := by
    rw [UInt8.lt_iff_toNat_lt, h.plan_eq, h.turns_eq]
  by_cases hcount : walk.turns < walk.plan.correctionInterval
  · obtain ⟨hradius, -⟩ := moved_of_turns_lt hcount
    have hnat := walk.moved_turns_toNat
    rw [if_pos hcount, h.turns_eq] at hnat
    rw [turnsNext, if_pos ⟨rfl, hlt.mpr hcount⟩]
    refine ⟨walk.moved_plan.trans h.plan_eq, hnat, ?_⟩
    rw [hradius, h.plan_eq, ArcPlan.exact_norm_smallTurn_sq, h.radius_sq,
      pow_succ plan.growth, mul_assoc]
  · rw [turnsNext, if_neg (fun hboth => hcount (hlt.mp hboth.2))]
    exact drifted_moved_of_not_lt h.plan_eq hcount

/-- A call after which waypoints are left counts turns as the calls before did. -/
theorem drifted_nth (hplan : walk.plan = plan)
    (h : walk.cursor.toNat ≤ plan.segments.toNat → Drifted plan turns walk) {skipped : UInt64}
    (hleft : (walk.nth skipped).2.cursor.toNat ≤ plan.segments.toNat) :
    Drifted plan (turnsNext plan.correctionInterval.toNat turns skipped) (walk.nth skipped).2 := by
  by_cases hskip : skipped = 0
  · subst hskip
    rw [nth_zero] at hleft ⊢
    have hlt := lt_of_next_le (hplan ▸ hleft)
    rw [next_of_lt hlt]
    rw [hplan] at hlt
    exact (h hlt.le).moved
  · -- passing over waypoints uses up the interval, so that nothing of the drift before is left
    rw [nth, if_neg hskip] at hleft ⊢
    have hskipped : (walk.skip skipped).plan = plan := hplan
    have hlt := lt_of_next_le (hskipped ▸ hleft)
    rw [next_of_lt hlt, turnsNext, if_neg (fun hboth => hskip hboth.1)]
    refine drifted_moved_of_not_lt hskipped ?_
    change ¬ walk.plan.correctionInterval < walk.plan.correctionInterval
    exact UInt8.lt_irrefl _

/-- While waypoints are left, an arc has drifted by the turns since the last exact radius vector. -/
theorem drifted_askAll {fresh : ArcWalk ℝ} (hfresh : Drifted plan 0 fresh) (calls : List UInt64)
    (hleft : (fresh.askAll calls).cursor.toNat ≤ plan.segments.toNat) :
    Drifted plan (turnsAfter plan.correctionInterval.toNat calls) (fresh.askAll calls) := by
  induction calls using List.reverseRecOn with
  | nil => exact hfresh
  | append_singleton calls skipped ih =>
    rw [askAll_concat] at hleft ⊢
    rw [turnsAfter_concat]
    exact drifted_nth ((fresh.askAll_plan calls).trans hfresh.plan_eq) ih hleft

/-- Before its last waypoint an arc moves to a point that has drifted by the turns since an exact
radius vector. -/
theorem drifted_moved_askAll {fresh : ArcWalk ℝ} (hfresh : Drifted plan 0 fresh)
    {calls : List UInt64} (h : (fresh.askAll calls).cursor.toNat < plan.segments.toNat) :
    Drifted plan (turnsAfter plan.correctionInterval.toNat (calls ++ [0]))
      (fresh.askAll calls).moved := by
  rw [turnsAfter_concat]
  exact (drifted_askAll hfresh calls h.le).moved

/-- The point that was reached is as far from the center as its radius vector is long. -/
theorem exact_centerDistance_sq {arc : Arc ℝ} {rate maxLength : ℝ} {interval : UInt8}
    (h : Drifted (ArcPlan.cut arc rate maxLength interval) turns walk.moved) :
    arc.centerDistance walk.moved.point ^ 2 =
      arc.startRadius.norm ^ 2 * (ArcPlan.cut arc rate maxLength interval).growth ^ turns := by
  have hpoint := planar_moved walk
  rw [← walk.moved_plan, h.plan_eq] at hpoint
  have hdistance : arc.centerDistance walk.moved.point = walk.moved.radius.norm :=
    Arc.exact_centerDistance_eq hpoint
  rw [hdistance, h.radius_sq]
  rfl

section Offset

variable {start target offset : PerAxis ℝ} {turn : Turn} {plane : Plane} {rate maxLength : ℝ}
  {interval : UInt8}

/-- An offset in the plane gives an arc a radius. -/
theorem radius_pos_of_offset
    (hoffset : offset.get plane.first ≠ 0 ∨ offset.get plane.second ≠ 0) :
    0 < (Arc.ofOffset start target offset turn plane).radius := by
  have hne : (Arc.ofOffset start target offset turn plane).startRadius.norm ≠ 0 :=
    Arc.exact_norm_startRadius_ne_zero hoffset
  rw [Arc.exact_norm_startRadius] at hne
  exact (Planar.exact_norm_nonneg _).lt_of_ne' hne

/-- How far a waypoint before the last one is from the center, and whether it is near to the circle,
follows from the turns since an exact radius vector. -/
theorem exact_drift (hradius : 0 < (Arc.ofOffset start target offset turn plane).radius)
    (h : Drifted (ArcPlan.cut (Arc.ofOffset start target offset turn plane) rate maxLength interval)
      turns walk.moved) :
    let arc := Arc.ofOffset start target offset turn plane
    let growth := (ArcPlan.cut arc rate maxLength interval).growth
    arc.centerDistance walk.moved.point ^ 2 = arc.radius ^ 2 * growth ^ turns ∧
      (arc.IsNearCircle walk.moved.point ↔ growth ^ turns < (1001 / 1000) ^ 2) := by
  intro arc growth
  have hdistance := exact_centerDistance_sq h
  rw [Arc.exact_norm_startRadius] at hdistance
  exact ⟨hdistance, Arc.isNearCircle_iff hradius (one_le_pow₀ (ArcPlan.one_le_growth _)) hdistance⟩

/-- When waypoints are asked for one after the other, the index of a waypoint decides whether it is
near to the circle. -/
theorem exact_isNearCircle_iff_of_index
    (hradius : 0 < (Arc.ofOffset start target offset turn plane).radius) {index : ℕ}
    (hpos : 1 ≤ index)
    (h : index < (cut (Arc.ofOffset start target offset turn plane) rate maxLength
      interval).plan.segments.toNat) :
    let arc := Arc.ofOffset start target offset turn plane
    let fresh := cut arc rate maxLength interval
    arc.IsNearCircle (fresh.askAll (List.replicate index 0)).point ↔
      fresh.plan.growth ^ (index % (fresh.plan.correctionInterval.toNat + 1)) <
        (1001 / 1000) ^ 2 := by
  intro arc fresh
  obtain ⟨passed, rfl⟩ := Nat.exists_eq_add_of_le' hpos
  have hfresh : Drifted fresh.plan 0 fresh := drifted_cut arc rate maxLength interval
  have hcursor : (fresh.askAll (List.replicate passed 0)).cursor.toNat = passed + 1 :=
    askAll_replicate_cursor rfl (Nat.le_of_succ_le h.le)
  have hlt : (fresh.askAll (List.replicate passed 0)).cursor.toNat < fresh.plan.segments.toNat := by
    rw [hcursor]
    exact h
  have hdrifted := drifted_moved_askAll hfresh hlt
  rw [← List.replicate_succ', turnsAfter_replicate] at hdrifted
  rw [List.replicate_succ', askAll_concat_zero (by rw [askAll_plan]; exact hlt)]
  exact (exact_drift hradius hdrifted).2

/-- All waypoints of an arc but the last one are near to the circle exactly when the one with the
most turns is. -/
theorem exact_take_isNearCircle_iff
    (hradius : 0 < (Arc.ofOffset start target offset turn plane).radius) :
    let arc := Arc.ofOffset start target offset turn plane
    let fresh := cut arc rate maxLength interval
    let before := fresh.plan.segments.toNat - 1
    (∀ waypoint ∈ (WaypointSupply.take before fresh).1, arc.IsNearCircle waypoint.point) ↔
      fresh.plan.growth ^ min fresh.plan.correctionInterval.toNat before < (1001 / 1000) ^ 2 := by
  intro arc fresh before
  have hgrowth : 1 ≤ fresh.plan.growth := ArcPlan.one_le_growth _
  have hinterval := min_le_left fresh.plan.correctionInterval.toNat before
  have hbefore := min_le_right fresh.plan.correctionInterval.toNat before
  constructor
  · -- the index of the most turns is one before the last, unless no index is
    intro hnear
    rcases Nat.eq_zero_or_pos (min fresh.plan.correctionInterval.toNat before) with hzero | hpos
    · rw [hzero, pow_zero]
      norm_num
    · have hlt : min fresh.plan.correctionInterval.toNat before < fresh.plan.segments.toNat := by
        omega
      have hmost := hnear _ ((mem_take_iff rfl).mpr ⟨_, hpos, hlt, rfl⟩)
      have hbound := (exact_isNearCircle_iff_of_index hradius hpos hlt).mp hmost
      rwa [Nat.mod_eq_of_lt (Nat.lt_succ_of_le hinterval)] at hbound
  · intro hbound waypoint hwaypoint
    obtain ⟨index, hpos, hlt, rfl⟩ := (mem_take_iff rfl).mp hwaypoint
    refine (exact_isNearCircle_iff_of_index hradius hpos hlt).mpr (lt_of_le_of_lt ?_ hbound)
    have hturns : index % (fresh.plan.correctionInterval.toNat + 1) ≤
        fresh.plan.correctionInterval.toNat := Nat.le_of_lt_succ (Nat.mod_lt _ (Nat.succ_pos _))
    have hindex : index % (fresh.plan.correctionInterval.toNat + 1) ≤ before :=
      (Nat.mod_le _ _).trans (Nat.le_sub_one_of_lt hlt)
    exact pow_le_pow_right₀ hgrowth (le_min hturns hindex)

end Offset

/-- Arcs stay near to their circle exactly as far as their drift allows. In exact arithmetic, take
any arc whose offset does not vanish in its plane, cut by any length and any interval. Whatever was
asked of it before, each waypoint that it hands out next and before its last one is as far from the
center as the turns since the last exact radius vector make it, and these are never more than the
interval. It is near to the circle exactly when the growth by these turns is small enough. When
waypoints are asked for one after the other, all but the last one are near to the circle exactly
when the most turns that occur are few enough. -/
theorem next_isNearCircle_iff (start target offset : PerAxis ℝ) (turn : Turn) (plane : Plane)
    (rate maxLength : ℝ) (interval : UInt8)
    (hoffset : offset.get plane.first ≠ 0 ∨ offset.get plane.second ≠ 0) :
    let arc := Arc.ofOffset start target offset turn plane
    let fresh := cut arc rate maxLength interval
    let most := fresh.plan.correctionInterval.toNat
    let before := fresh.plan.segments.toNat - 1
    let growth := fresh.plan.growth
    (∀ calls, (fresh.askAll calls).cursor.toNat < fresh.plan.segments.toNat →
      ∃ waypoint, (fresh.askAll calls).next.1 = some waypoint ∧
        ∃ turns ≤ most, turns = turnsAfter most (calls ++ [0]) ∧
          arc.centerDistance waypoint.point ^ 2 = arc.radius ^ 2 * growth ^ turns ∧
          (arc.IsNearCircle waypoint.point ↔ growth ^ turns < (1001 / 1000) ^ 2)) ∧
    ((∀ waypoint ∈ (WaypointSupply.take before fresh).1, arc.IsNearCircle waypoint.point) ↔
      growth ^ min most before < (1001 / 1000) ^ 2) := by
  intro arc fresh most before growth
  have hradius : 0 < arc.radius := radius_pos_of_offset hoffset
  have hfresh : Drifted fresh.plan 0 fresh := drifted_cut arc rate maxLength interval
  refine ⟨fun calls hcursor => ?_, exact_take_isNearCircle_iff hradius⟩
  have hlt : (fresh.askAll calls).cursor.toNat < (fresh.askAll calls).plan.segments.toNat := by
    rw [askAll_plan]
    exact hcursor
  have hnext := congrArg Prod.fst (next_of_lt hlt)
  exact ⟨_, hnext, _, turnsAfter_le most _, rfl,
    exact_drift hradius (drifted_moved_askAll hfresh hcursor)⟩

/-- A full circle of radius one, turned clockwise. -/
noncomputable def unitCircle : Arc ℝ := .ofOffset ⟨1, 0, 0⟩ ⟨1, 0, 0⟩ ⟨-1, 0, 0⟩ .clockwise .xy

/-- Its radius is one. -/
theorem radius_unitCircle : unitCircle.radius = 1 := by
  change √(-1 * -1 + 0 * 0) = (1 : ℝ)
  norm_num

/-- It sweeps a full turn. -/
theorem sweep_unitCircle : unitCircle.sweep = -(2 * Real.pi) := by
  have hclosed : unitCircle.targetRadius = unitCircle.startRadius := by
    change Planar.mk ((1 : ℝ) - (1 + -1)) (0 - (0 + 0)) = Planar.mk (- -1) (-0)
    norm_num
  have hangle := Arc.exact_counterClockwiseAngle_of_closed hclosed
  change unitCircle.counterClockwiseAngle - 2.0 * Real.pi = _
  rw [hangle]
  norm_num

/-- Its path is as long as its circumference. -/
theorem length_unitCircle : unitCircle.length = 2 * Real.pi := by
  have hrise : Scalar.abs unitCircle.rise = 0 := by
    change |(0 : ℝ) - 0| = 0
    norm_num
  have hnonneg : 0 ≤ 2 * Real.pi := Real.two_pi_pos.le
  rw [Arc.length, hrise, sweep_unitCircle, radius_unitCircle, mul_one]
  change √(-(2 * Real.pi) * -(2 * Real.pi) + 0 * 0) = _
  rw [neg_mul_neg, mul_zero, add_zero, Real.sqrt_mul_self hnonneg]

/-- It is cut into as many segments as whole greatest lengths fit its circumference. These share the
turn, so that their number decides how far a turn of theirs leads out. -/
theorem plan_unitCircle (rate : ℝ) (interval : UInt8) {maxLength : ℝ} {count : ℕ} (hpos : 0 < count)
    (hword : count < UInt32.size) (hfloor : ⌊2 * Real.pi / maxLength⌋₊ = count) :
    let plan := ArcPlan.cut unitCircle rate maxLength interval
    plan.segments.toNat = count ∧ plan.growth = 1 + (2 * Real.pi / count) ^ 4 / 4 := by
  intro plan
  have hpath : unitCircle.length ≠ 0 := by
    rw [length_unitCircle]
    exact Real.two_pi_pos.ne'
  rw [← length_unitCircle] at hfloor
  have hsegments : plan.segments.toNat = count :=
    ArcPlan.exact_cut_segments rate interval hpath hfloor hpos hword
  have hangle : plan.stepAngle = unitCircle.sweep / plan.segments.toNat :=
    (ArcPlan.exact_cut_shares (hsegments.symm ▸ hpos)).1
  have heven : (-(2 * Real.pi) / (count : ℝ)) ^ 4 = (2 * Real.pi / count) ^ 4 := by
    rw [neg_div, Even.neg_pow (by decide)]
  refine ⟨hsegments, ?_⟩
  rw [ArcPlan.growth, hangle, sweep_unitCircle, hsegments, heven]

/-- Cut by its radius it has six segments. -/
theorem plan_unitCircle_radius (rate : ℝ) (interval : UInt8) :
    let plan := ArcPlan.cut unitCircle rate 1 interval
    plan.segments.toNat = 6 ∧ plan.growth = 1 + (2 * Real.pi / (6 : ℕ)) ^ 4 / 4 := by
  have hfloor : ⌊2 * Real.pi / 1⌋₊ = 6 := by
    have hlower := Real.pi_gt_three
    have hupper := Real.pi_lt_d2
    rw [div_one, Nat.floor_eq_iff (by positivity)]
    constructor <;> norm_num <;> linarith
  exact plan_unitCircle rate interval (by norm_num) (by decide) hfloor

/-- Cut by a tenth of its radius, the circle has its first waypoint outside by one turn, and all but
the last one near to it. -/
theorem next_isNearCircle_iff_tenth :
    let offset : PerAxis ℝ := ⟨-1, 0, 0⟩
    let fresh := cut (.ofOffset ⟨1, 0, 0⟩ ⟨1, 0, 0⟩ offset .clockwise .xy) 1 (1 / 10) 25
    (offset.get Plane.xy.first ≠ 0 ∨ offset.get Plane.xy.second ≠ 0) ∧
    fresh.plan.segments.toNat = 62 ∧
    (∃ waypoint, fresh.next.1 = some waypoint ∧
      unitCircle.centerDistance waypoint.point ^ 2 = fresh.plan.growth) ∧
    ∀ waypoint ∈ (WaypointSupply.take 61 fresh).1, unitCircle.IsNearCircle waypoint.point := by
  intro offset fresh
  have hoffset : offset.get Plane.xy.first ≠ 0 ∨ offset.get Plane.xy.second ≠ 0 :=
    .inl (neg_ne_zero.mpr one_ne_zero)
  have hfloor : ⌊2 * Real.pi / (1 / 10)⌋₊ = 62 := by
    have hlower := Real.pi_gt_d2
    have hupper := Real.pi_lt_d2
    rw [Nat.floor_eq_iff (by positivity)]
    constructor <;> norm_num <;> linarith
  obtain ⟨hsegments, hgrowth⟩ :
      fresh.plan.segments.toNat = 62 ∧
        fresh.plan.growth = 1 + (2 * Real.pi / (62 : ℕ)) ^ 4 / 4 :=
    plan_unitCircle 1 25 (by norm_num) (by decide) hfloor
  obtain ⟨hcalls, hall⟩ :=
    next_isNearCircle_iff ⟨1, 0, 0⟩ ⟨1, 0, 0⟩ offset .clockwise .xy 1 (1 / 10) 25 hoffset
  refine ⟨hoffset, hsegments, ?_, ?_⟩
  · obtain ⟨waypoint, hnext, turns, -, hturns, hdistance, -⟩ := hcalls [] (by
      change 1 < fresh.plan.segments.toNat
      rw [hsegments]
      norm_num)
    have hone : turns = 1 := hturns
    have hradius : unitCircle.radius = 1 := radius_unitCircle
    refine ⟨waypoint, hnext, hdistance.trans ?_⟩
    rw [hone, pow_one]
    change unitCircle.radius ^ 2 * fresh.plan.growth = fresh.plan.growth
    rw [hradius, one_pow, one_mul]
  · change (∀ waypoint ∈ (WaypointSupply.take (fresh.plan.segments.toNat - 1) fresh).1,
      unitCircle.IsNearCircle waypoint.point) ↔
      fresh.plan.growth ^ min 25 (fresh.plan.segments.toNat - 1) < (1001 / 1000) ^ 2 at hall
    rw [hsegments] at hall
    refine hall.mpr ?_
    have hsmall : fresh.plan.growth ≤ 1 + 3 / 100000 := by
      have hupper := Real.pi_lt_d2
      have hfraction : 2 * Real.pi / (62 : ℕ) ≤ 102 / 1000 := by
        push_cast
        linarith
      have hpower : (2 * Real.pi / (62 : ℕ)) ^ 4 ≤ (102 / 1000) ^ 4 :=
        pow_le_pow_left₀ (by positivity) hfraction 4
      rw [hgrowth]
      linarith
    calc fresh.plan.growth ^ min 25 (62 - 1)
        ≤ (1 + 3 / 100000) ^ 25 :=
          pow_le_pow_left₀ (zero_le_one.trans (ArcPlan.one_le_growth _)) hsmall 25
      _ < (1001 / 1000) ^ 2 := by norm_num

/-- The standard configuration is usable, yet it cuts a full circle of radius one so coarsely that
the first waypoint is not near to the circle, and others follow before the last one. -/
theorem next_leaves_unitCircle :
    let settings : Settings ℝ := Configuration.standard.settings
    let offset : PerAxis ℝ := ⟨-1, 0, 0⟩
    let arc := Arc.ofOffset ⟨1, 0, 0⟩ ⟨1, 0, 0⟩ offset .clockwise .xy
    let fresh := cut arc 1 settings.maxArcSegment settings.correctionInterval
    (Configuration.standard : Configuration ℝ).fault? = none ∧
    (offset.get Plane.xy.first ≠ 0 ∨ offset.get Plane.xy.second ≠ 0) ∧
    ∃ waypoint rest, fresh.next = (some waypoint, rest) ∧ rest.remaining ≠ 0 ∧
      ¬ |arc.centerDistance waypoint.point - arc.radius| < 1 / 1000 * arc.radius := by
  intro settings offset arc fresh
  have hoffset : offset.get Plane.xy.first ≠ 0 ∨ offset.get Plane.xy.second ≠ 0 :=
    .inl (neg_ne_zero.mpr one_ne_zero)
  have hmost : settings.maxArcSegment = 1 / 2 := by
    change (0.5 : ℝ) = 1 / 2
    norm_num
  have hfloor : ⌊2 * Real.pi / settings.maxArcSegment⌋₊ = 12 := by
    have hlower := Real.pi_gt_three
    have hupper := Real.pi_lt_d2
    rw [hmost, Nat.floor_eq_iff (by positivity)]
    constructor <;> norm_num <;> linarith
  obtain ⟨hsegments, hgrowth⟩ :
      fresh.plan.segments.toNat = 12 ∧
        fresh.plan.growth = 1 + (2 * Real.pi / (12 : ℕ)) ^ 4 / 4 :=
    plan_unitCircle 1 settings.correctionInterval (by norm_num) (by decide) hfloor
  have hlt : fresh.cursor.toNat < fresh.plan.segments.toNat := by
    rw [hsegments]
    change 1 < 12
    norm_num
  have hlarge : (1001 / 1000) ^ 2 ≤ fresh.plan.growth := by
    have hlower := Real.pi_gt_three
    have hfraction : 1 / 2 ≤ 2 * Real.pi / (12 : ℕ) := by
      push_cast
      linarith
    have hpower : (1 / 2 : ℝ) ^ 4 ≤ (2 * Real.pi / (12 : ℕ)) ^ 4 :=
      pow_le_pow_left₀ (by positivity) hfraction 4
    rw [hgrowth]
    linarith
  have hdrifted : Drifted fresh.plan 1 fresh.moved :=
    (drifted_cut arc 1 settings.maxArcSegment settings.correctionInterval).moved
  have hiff := (exact_drift (radius_pos_of_offset hoffset) hdrifted).2
  rw [pow_one] at hiff
  refine ⟨Configuration.exact_standard_fault?, hoffset, _, _, next_of_lt hlt, ?_,
    fun hnear => (hiff.mp hnear).not_ge hlarge⟩
  have hcursor : fresh.moved.cursor.toNat = 2 := congrArg UInt64.toNat fresh.moved_cursor
  rw [remaining, fresh.moved_plan, hsegments, hcursor]
  norm_num

end ArcWalk

end Toolpath
