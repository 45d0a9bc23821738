import Mathlib.Data.Real.Basic
import Toolpath.Proofs.Move.Drift

/-!
# The schedule of exact radius vectors

Which radius vectors of an arc are exact is settled by its calls: one that passes over waypoints
lands on an exact radius vector, and so does one that finds the interval used up. Every other radius
vector is that of the waypoint before, turned approximately. Whatever drift there was before an
exact radius vector has no part in what follows it.
-/

namespace Toolpath

variable {α : Type} [Scalar α]

/-- Vector turned by an angle. -/
def Planar.turned (angle : α) (vector : Planar α) : Planar α :=
  ⟨vector.first * Scalar.cos angle - vector.second * Scalar.sin angle,
    vector.first * Scalar.sin angle + vector.second * Scalar.cos angle⟩

/-- Vector turned by a small angle, which stands for its own sine and gives its cosine to second
order. -/
def Planar.nearlyTurned (angle : α) (vector : Planar α) : Planar α :=
  ⟨vector.first * (1.0 - 0.5 * angle * angle) - vector.second * angle,
    vector.first * angle + vector.second * (1.0 - 0.5 * angle * angle)⟩

namespace ArcPlan

/-- Radius vector without drift: the first one at the start, the same turned by the angle of as many
segments at any later index. -/
def trueRadius (plan : ArcPlan α) (index : Nat) : Planar α :=
  if index = 0 then plan.startRadius
  else plan.startRadius.turned (Scalar.ofWord (.ofNat index) * plan.stepAngle)

/-- Radius vector at the index to which calls lead: the last one without drift, turned approximately
as often as turns have been made since. -/
def scheduledRadius (plan : ArcPlan α) (calls : List UInt64) : Planar α :=
  let turns := ArcWalk.turnsAfter plan.correctionInterval.toNat calls
  (Planar.nearlyTurned plan.stepAngle)^[turns] (plan.trueRadius (ArcWalk.passedBy calls - turns))

/-- The exact radius vector of an index is the first one turned by the angle of the index. -/
theorem exactRadius_eq_turned (plan : ArcPlan α) (index : UInt64) :
    plan.exactRadius index = plan.startRadius.turned (Scalar.ofWord index * plan.stepAngle) := rfl

/-- An approximate turn takes the angle of a segment for a small one. -/
theorem smallTurn_eq_nearlyTurned (plan : ArcPlan α) (radius : Planar α) :
    plan.smallTurn radius = radius.nearlyTurned plan.stepAngle := rfl

end ArcPlan

namespace ArcWalk

variable {arc : ArcWalk α}

/-- A call that does not turn approximately starts to count turns anew. -/
theorem turnsNext_eq_zero_iff {interval turns : Nat} {skipped : UInt64} :
    turnsNext interval turns skipped = 0 ↔ skipped ≠ 0 ∨ interval ≤ turns := by
  rw [turnsNext, ← Nat.not_lt, ← not_and_or]
  split
  · rename_i hturn
    exact ⟨fun hzero => absurd hzero (Nat.succ_ne_zero _), fun hexact => absurd hturn hexact⟩
  · rename_i hexact
    exact ⟨fun _ => hexact, fun _ => rfl⟩

/-- Every approximate turn passes an index. -/
theorem turnsAfter_le_passedBy (interval : Nat) (calls : List UInt64) :
    turnsAfter interval calls ≤ passedBy calls := by
  induction calls using List.reverseRecOn with
  | nil => exact Nat.le_refl 0
  | append_singleton calls skipped ih =>
    rw [turnsAfter_concat, passedBy_concat, turnsNext]
    split <;> omega

/-- The turns since an exact radius vector are the last calls, which pass over none. -/
theorem exists_append_replicate (interval : Nat) (calls : List UInt64) :
    ∃ earlier, calls = earlier ++ List.replicate (turnsAfter interval calls) 0 ∧
      turnsAfter interval earlier = 0 := by
  induction calls using List.reverseRecOn with
  | nil => exact ⟨[], rfl, rfl⟩
  | append_singleton calls skipped ih =>
    obtain ⟨earlier, hcalls, hexact⟩ := ih
    rw [turnsAfter_concat]
    by_cases hturn : skipped = 0 ∧ turnsAfter interval calls < interval
    · refine ⟨earlier, ?_, hexact⟩
      rw [turnsNext, if_pos hturn, hturn.1, List.replicate_succ', ← List.append_assoc, ← hcalls]
    · have hzero : turnsNext interval (turnsAfter interval calls) skipped = 0 := if_neg hturn
      refine ⟨calls ++ [skipped], ?_, (turnsAfter_concat _ _ _).trans hzero⟩
      rw [hzero, List.replicate_zero, List.append_nil]

/-- Calls that have led to the same number of turns are not told apart by the turns that follow. -/
theorem turnsAfter_append_congr {interval : Nat} {calls others : List UInt64}
    (h : turnsAfter interval calls = turnsAfter interval others) (later : List UInt64) :
    turnsAfter interval (calls ++ later) = turnsAfter interval (others ++ later) := by
  induction later using List.reverseRecOn with
  | nil => rw [List.append_nil, List.append_nil, h]
  | append_singleton later skipped ih =>
    rw [← List.append_assoc, ← List.append_assoc, turnsAfter_concat, turnsAfter_concat, ih]

/-- When none is passed over, an index finds the interval used up exactly when its number is a
multiple of one more than the interval. -/
theorem turnsAfter_replicate_eq_iff (interval before : Nat) :
    turnsAfter interval (List.replicate before 0) = interval ↔ interval + 1 ∣ before + 1 := by
  have hle := turnsAfter_le interval (List.replicate before 0)
  have hnext : turnsNext interval (turnsAfter interval (List.replicate before 0)) 0 =
      (before + 1) % (interval + 1) := by
    rw [← turnsAfter_concat, ← List.replicate_succ', turnsAfter_replicate]
  rw [Nat.dvd_iff_mod_eq_zero, ← hnext, turnsNext_eq_zero_iff]
  constructor
  · exact fun hmost => .inr (Nat.le_of_eq hmost.symm)
  · rintro (hskip | hmost)
    · exact absurd rfl hskip
    · exact Nat.le_antisymm hle hmost

end ArcWalk

namespace ArcPlan

open ArcWalk

variable (plan : ArcPlan α)

/-- Without turns since an exact radius vector, the scheduled one has no drift. -/
theorem scheduledRadius_of_turnsAfter_eq_zero {calls : List UInt64}
    (h : turnsAfter plan.correctionInterval.toNat calls = 0) :
    plan.scheduledRadius calls = plan.trueRadius (passedBy calls) := by
  rw [scheduledRadius, h]
  rfl

/-- A call that passes over none turns the radius vector while the interval lasts. -/
theorem scheduledRadius_concat_of_lt {calls : List UInt64}
    (h : turnsAfter plan.correctionInterval.toNat calls < plan.correctionInterval.toNat) :
    plan.scheduledRadius (calls ++ [0]) =
      (plan.scheduledRadius calls).nearlyTurned plan.stepAngle := by
  have hturns : turnsAfter plan.correctionInterval.toNat (calls ++ [0]) =
      turnsAfter plan.correctionInterval.toNat calls + 1 := by
    rw [turnsAfter_concat, turnsNext, if_pos ⟨rfl, h⟩]
  have hindex : passedBy (calls ++ [0]) - (turnsAfter plan.correctionInterval.toNat calls + 1) =
      passedBy calls - turnsAfter plan.correctionInterval.toNat calls := by
    rw [passedBy_concat]
    exact Nat.add_sub_add_right _ 1 _
  simp only [scheduledRadius]
  rw [hturns, hindex, Function.iterate_succ_apply']

/-- Every other call makes the radius vector exact. -/
theorem scheduledRadius_concat_of_exact {calls : List UInt64} {skipped : UInt64}
    (h : skipped ≠ 0 ∨
      plan.correctionInterval.toNat ≤ turnsAfter plan.correctionInterval.toNat calls) :
    plan.scheduledRadius (calls ++ [skipped]) = plan.startRadius.turned
      (Scalar.ofWord (.ofNat (passedBy calls + skipped.toNat + 1)) * plan.stepAngle) := by
  simp only [scheduledRadius]
  rw [turnsAfter_concat, turnsNext_eq_zero_iff.mpr h, passedBy_concat, Nat.sub_zero, trueRadius,
    if_neg (Nat.succ_ne_zero _)]
  rfl

end ArcPlan

namespace ArcWalk

variable {arc : ArcWalk α}

/-- Passing over waypoints uses up the interval. -/
theorem reached_turns_lt_iff (arc : ArcWalk α) (skipped : UInt64) :
    (arc.reached skipped).turns < arc.plan.correctionInterval ↔
      skipped = 0 ∧ arc.turns < arc.plan.correctionInterval := by
  unfold reached
  by_cases hskip : skipped = 0
  · rw [if_pos hskip]
    exact ⟨fun hlt => ⟨hskip, hlt⟩, And.right⟩
  · rw [if_neg hskip]
    exact ⟨fun hlt => absurd hlt (UInt8.lt_irrefl _), fun hboth => absurd hboth.1 hskip⟩

/-- Passing over waypoints leaves the radius vector as it is. -/
theorem reached_radius (arc : ArcWalk α) (skipped : UInt64) :
    (arc.reached skipped).radius = arc.radius := by
  unfold reached
  split <;> rfl

/-- There are never more turns in the counter than the interval allows, wherever the next waypoint
lies. -/
theorem next_turns_le (h : arc.turns ≤ arc.plan.correctionInterval) :
    arc.next.2.turns.toNat ≤ arc.plan.correctionInterval.toNat := by
  have hnat := UInt8.le_iff_toNat_le.mp h
  rcases Nat.lt_trichotomy arc.cursor.toNat arc.plan.segments.toNat with hlt | heq | hgt
  · rw [next_of_lt hlt]
    dsimp only
    rw [moved_turns_toNat]
    split
    · rename_i hturn
      exact UInt8.lt_iff_toNat_lt.mp hturn
    · exact Nat.zero_le _
  · rw [next_of_eq heq]
    exact hnat
  · rw [next_of_gt hgt]
    exact hnat

/-- Whatever is asked of an arc without turns, its counter never exceeds the interval. -/
theorem askAll_turns_le (hfresh : arc.turns = 0) (calls : List UInt64) :
    (arc.askAll calls).turns.toNat ≤ arc.plan.correctionInterval.toNat := by
  induction calls using List.reverseRecOn with
  | nil =>
    change arc.turns.toNat ≤ _
    rw [hfresh]
    exact Nat.zero_le _
  | append_singleton calls skipped ih =>
    rw [askAll_concat, nth_eq_next]
    have hplan : ((arc.askAll calls).reached skipped).plan = arc.plan := by
      rw [reached_plan, askAll_plan]
    have hreached : ((arc.askAll calls).reached skipped).turns ≤
        ((arc.askAll calls).reached skipped).plan.correctionInterval := by
      rw [hplan, UInt8.le_iff_toNat_le]
      unfold reached
      split
      · exact ih
      · rw [← arc.askAll_plan calls]
        exact Nat.le_refl _
    have hnext := next_turns_le hreached
    rw [hplan] at hnext
    exact hnext

/-- The radius vector of a fresh arc is the scheduled one, and its counter has counted the turns, as
long as the calls have not come to the last index. -/
theorem askAll_scheduled (hcursor : arc.cursor = 1) (hturns : arc.turns = 0)
    (hradius : arc.radius = arc.plan.startRadius) (calls : List UInt64)
    (h : passedBy calls < arc.plan.segments.toNat) :
    (arc.askAll calls).radius = arc.plan.scheduledRadius calls ∧
      (arc.askAll calls).turns.toNat = turnsAfter arc.plan.correctionInterval.toNat calls := by
  refine askAll_induction hcursor (motive := fun calls walk =>
    walk.radius = arc.plan.scheduledRadius calls ∧
      walk.turns.toNat = turnsAfter arc.plan.correctionInterval.toNat calls)
    ⟨hradius, congrArg UInt8.toNat hturns⟩ ?_ calls h
  rintro calls skipped walk hplan hplace hlt ⟨hwalk, hcount⟩
  rw [passedBy_concat] at hlt
  have hreached : (walk.reached skipped).plan = arc.plan := (walk.reached_plan skipped).trans hplan
  have hindex : (walk.reached skipped).cursor = .ofNat (passedBy calls + skipped.toNat + 1) := by
    have hle : walk.cursor.toNat + skipped.toNat ≤ walk.plan.segments.toNat := by
      rw [hplace, hplan]
      omega
    rw [← UInt64.toNat_inj, index_toNat (Nat.le_of_lt hlt), reached_cursor_of_le hle, hplace]
    omega
  have hturn : (walk.reached skipped).turns < (walk.reached skipped).plan.correctionInterval ↔
      skipped = 0 ∧ turnsAfter arc.plan.correctionInterval.toNat calls <
        arc.plan.correctionInterval.toNat := by
    rw [hreached, ← hplan, reached_turns_lt_iff, UInt8.lt_iff_toNat_lt, hcount, hplan]
  have hmoved := (walk.reached skipped).moved_turns_toNat
  rw [turnsAfter_concat, turnsNext]
  by_cases hlast : skipped = 0 ∧ turnsAfter arc.plan.correctionInterval.toNat calls <
      arc.plan.correctionInterval.toNat
  · -- the interval lasts and none is passed over: the radius vector before is turned
    rw [if_pos (hturn.mpr hlast)] at hmoved
    rw [(moved_of_turns_lt (hturn.mpr hlast)).1, reached_radius, hwalk, hreached, hmoved, hlast.1,
      arc.plan.smallTurn_eq_nearlyTurned, arc.plan.scheduledRadius_concat_of_lt hlast.2,
      if_pos ⟨rfl, hlast.2⟩]
    exact ⟨rfl, congrArg (· + 1) hcount⟩
  · -- whatever the radius vector was, it is computed from that of the start
    have hexact : skipped ≠ 0 ∨ arc.plan.correctionInterval.toNat ≤
        turnsAfter arc.plan.correctionInterval.toNat calls := by
      rw [← Nat.not_lt]
      exact not_and_or.mp hlast
    rw [if_neg (fun hlt => hlast (hturn.mp hlt))] at hmoved
    rw [(moved_of_not_turns_lt (fun hlt => hlast (hturn.mp hlt))).1, hreached, hindex, hmoved,
      arc.plan.exactRadius_eq_turned, arc.plan.scheduledRadius_concat_of_exact hexact, if_neg hlast]
    exact ⟨rfl, rfl⟩

/-- A call hands out a waypoint before the last index, and its radius vector comes from the schedule
of the arc. -/
structure OnSchedule (fresh : ArcWalk α) (calls : List UInt64) (skipped : UInt64) : Prop where
  /-- In its plane the waypoint lies at the end of the radius vector to which the call leads. -/
  planar : ∃ waypoint, ((fresh.askAll calls).nth skipped).1 = some waypoint ∧
    waypoint.point.get fresh.plan.plane.first =
      fresh.plan.center.first + ((fresh.askAll calls).nth skipped).2.radius.first ∧
    waypoint.point.get fresh.plan.plane.second =
      fresh.plan.center.second + ((fresh.askAll calls).nth skipped).2.radius.second
  /-- If waypoints are passed over, or the interval is used up, it is the first radius vector turned
  by the angle of the index. -/
  exact : skipped ≠ 0 ∨
      turnsAfter fresh.plan.correctionInterval.toNat calls = fresh.plan.correctionInterval.toNat →
    let start := fresh.plan.startRadius
    let angle := Scalar.ofWord (.ofNat (passedBy calls + skipped.toNat + 1)) * fresh.plan.stepAngle
    ((fresh.askAll calls).nth skipped).2.radius =
      ⟨start.first * Scalar.cos angle - start.second * Scalar.sin angle,
        start.first * Scalar.sin angle + start.second * Scalar.cos angle⟩
  /-- Otherwise it is the radius vector before, turned by the angle of a segment as if that were its
  own sine and its cosine stopped at the square. -/
  turned : skipped = 0 →
      turnsAfter fresh.plan.correctionInterval.toNat calls ≠ fresh.plan.correctionInterval.toNat →
    let before := (fresh.askAll calls).radius
    let angle := fresh.plan.stepAngle
    let cosine := 1.0 - 0.5 * angle * angle
    ((fresh.askAll calls).nth skipped).2.radius =
      ⟨before.first * cosine - before.second * angle, before.first * angle + before.second * cosine⟩
  /-- The counter of the arc holds the turns since an exact radius vector. -/
  turns_eq : ((fresh.askAll calls).nth skipped).2.turns.toNat =
    turnsAfter fresh.plan.correctionInterval.toNat (calls ++ [skipped])
  /-- No more than these turns are between the radius vector and one without drift. -/
  scheduled : ((fresh.askAll calls).nth skipped).2.radius =
    fresh.plan.scheduledRadius (calls ++ [skipped])

/-- Before its last index a fresh arc hands out waypoints as its schedule has them. -/
theorem onSchedule (hcursor : arc.cursor = 1) (hturns : arc.turns = 0)
    (hradius : arc.radius = arc.plan.startRadius) {calls : List UInt64} {skipped : UInt64}
    (h : passedBy (calls ++ [skipped]) < arc.plan.segments.toNat) :
    arc.OnSchedule calls skipped := by
  have hbefore : passedBy calls < arc.plan.segments.toNat := by
    rw [passedBy_concat] at h
    omega
  have hle := turnsAfter_le arc.plan.correctionInterval.toNat calls
  obtain ⟨hwalk, -⟩ := askAll_scheduled hcursor hturns hradius calls hbefore
  obtain ⟨hafter, hcount⟩ := askAll_scheduled hcursor hturns hradius _ h
  rw [askAll_concat] at hafter hcount
  refine ⟨?_, fun hexact => ?_, fun hskip hmost => ?_, hcount, hafter⟩
  · have hplan : ((arc.askAll calls).reached skipped).plan = arc.plan := by
      rw [reached_plan, askAll_plan]
    have hpoint := ((arc.askAll calls).reached skipped).planar_moved
    rw [hplan] at hpoint
    rw [askAll_concat_of_lt hcursor h]
    exact ⟨_, rfl, congrArg Planar.first hpoint, congrArg Planar.second hpoint⟩
  · rw [hafter]
    exact arc.plan.scheduledRadius_concat_of_exact
      (hexact.imp_right fun hmost => Nat.le_of_eq hmost.symm)
  · subst hskip
    rw [hafter, hwalk, arc.plan.scheduledRadius_concat_of_lt (Nat.lt_of_le_of_ne hle hmost)]
    rfl

/-- An arc that was cut has the interval that was given, or one for zero. -/
theorem cut_correctionInterval_toNat (arc : Arc α) (rate maxLength : α) (interval : UInt8) :
    (cut arc rate maxLength interval).plan.correctionInterval.toNat = max 1 interval.toNat := by
  change (if interval = 0 then 1 else interval).toNat = _
  by_cases hzero : interval = 0
  · rw [if_pos hzero, hzero]
    rfl
  · have hpos : interval.toNat ≠ 0 := fun hnat => hzero (UInt8.toNat_inj.mp hnat)
    rw [if_neg hzero]
    omega

/-- The radius vectors of an arc are exact on schedule, whatever is asked of it. Any arc is cut by
any length and any interval, one of zero acting as one. It turns around its start moved by the
offset, from the opposite of the offset on, by an equal share of the swept angle for each segment.
Its counter of approximate turns never exceeds the interval. Before the last index a call that
passes over waypoints, or finds the interval used up, leads to the first radius vector turned by the
angle of the index, and every other call to an approximate turn of the radius vector before. When
none is passed over, the multiples of one more than the interval are exact. What came before calls
that lead to the same index with the same turns, such as those that make the radius vector exact
there, has no part in what follows them. -/
theorem nth_onSchedule (arc : Arc α) (rate maxLength : α) (interval : UInt8) :
    let fresh := cut arc rate maxLength interval
    let segments := fresh.plan.segments.toNat
    let most := fresh.plan.correctionInterval.toNat
    most = max 1 interval.toNat ∧
    (fresh.plan.plane = arc.plane ∧
      fresh.plan.center = ⟨arc.start.get arc.plane.first + arc.offset.get arc.plane.first,
        arc.start.get arc.plane.second + arc.offset.get arc.plane.second⟩ ∧
      fresh.plan.startRadius = ⟨-arc.offset.get arc.plane.first, -arc.offset.get arc.plane.second⟩ ∧
      (fresh.plan.segments ≠ 0 →
        fresh.plan.stepAngle = arc.sweep / Scalar.ofWord fresh.plan.segments.toUInt64)) ∧
    fresh.radius = fresh.plan.startRadius ∧
    (∀ calls, (fresh.askAll calls).turns.toNat ≤ most) ∧
    (∀ calls, turnsAfter most calls ≤ most ∧ turnsAfter most calls ≤ passedBy calls) ∧
    (∀ calls skipped, passedBy calls + skipped.toNat + 1 < segments →
      fresh.OnSchedule calls skipped) ∧
    (∀ before, turnsAfter most (List.replicate before 0) = most ↔ most + 1 ∣ before + 1) ∧
    ∀ calls others later, turnsAfter most calls = turnsAfter most others →
      passedBy calls = passedBy others → passedBy (calls ++ later) < segments →
        (fresh.askAll (calls ++ later)).radius = (fresh.askAll (others ++ later)).radius := by
  intro fresh segments most
  refine ⟨cut_correctionInterval_toNat _ _ _ _, ⟨rfl, rfl, rfl, fun hsegments => ?_⟩, rfl,
    askAll_turns_le rfl, fun calls => ⟨turnsAfter_le _ _, turnsAfter_le_passedBy _ _⟩,
    fun calls skipped hindex => ?_, turnsAfter_replicate_eq_iff most,
    fun calls others later hturns hplace hindex => ?_⟩
  · exact (ArcPlan.cut_stepAngle arc rate maxLength interval).trans (if_neg hsegments)
  · rw [← passedBy_concat] at hindex
    exact onSchedule rfl rfl rfl hindex
  · have hsame : passedBy (calls ++ later) = passedBy (others ++ later) := by
      rw [passedBy_append, passedBy_append, hplace]
    obtain ⟨hradius, -⟩ := askAll_scheduled (rfl : fresh.cursor = 1) rfl rfl _ hindex
    obtain ⟨hother, -⟩ := askAll_scheduled (rfl : fresh.cursor = 1) rfl rfl _ (hsame ▸ hindex)
    rw [hradius, hother, ArcPlan.scheduledRadius, ArcPlan.scheduledRadius,
      turnsAfter_append_congr hturns, hsame]

/-- The vector of length one along the first axis, turned by an angle, shows its cosine and sine. -/
theorem exact_turned_first (angle : ℝ) :
    (⟨1, 0⟩ : Planar ℝ).turned angle = ⟨Real.cos angle, Real.sin angle⟩ := by
  have hfirst : 1 * Real.cos angle - 0 * Real.sin angle = Real.cos angle := by ring
  have hsecond : 1 * Real.sin angle + 0 * Real.cos angle = Real.sin angle := by ring
  exact congrArg₂ Planar.mk hfirst hsecond

/-- Each segment of the circle that is cut by its radius turns it by a sixth, clockwise. -/
theorem stepAngle_unitCircle (rate : ℝ) (interval : UInt8) :
    (ArcPlan.cut unitCircle rate 1 interval).stepAngle = -(Real.pi / 3) := by
  obtain ⟨hsegments, -⟩ := plan_unitCircle_radius rate interval
  have hpos : 0 < (ArcPlan.cut unitCircle rate 1 interval).segments.toNat := by
    rw [hsegments]
    decide
  rw [(ArcPlan.exact_cut_shares hpos).1, hsegments, sweep_unitCircle]
  push_cast
  ring

/-- A circle in six segments whose radius vectors are exact at every second index. The first is a
step along the tangent, shortened to second order. The second is exact, as is any behind waypoints
that are passed over. It does not matter whether the second was asked for or passed over on the way
to the third. -/
theorem nth_onSchedule_unitCircle :
    let fresh := cut unitCircle 1 1 1
    fresh.plan.segments.toNat = 6 ∧
    (fresh.nth 0).2.radius = ⟨1 - Real.pi ^ 2 / 18, -(Real.pi / 3)⟩ ∧
    ((fresh.askAll [0]).nth 0).2.radius = ⟨-(1 / 2), -(√3 / 2)⟩ ∧
    ((fresh.askAll [0]).nth 2).2.radius = ⟨-(1 / 2), √3 / 2⟩ ∧
    (fresh.askAll ([0, 0] ++ [0])).radius = (fresh.askAll ([1] ++ [0])).radius := by
  intro fresh
  have hsegments : fresh.plan.segments.toNat = 6 := (plan_unitCircle_radius 1 1).1
  have hstep : fresh.plan.stepAngle = -(Real.pi / 3) := stepAngle_unitCircle 1 1
  obtain ⟨-, ⟨-, -, hstart, -⟩, hfresh, -, -, hschedule, -, hsame⟩ :=
    nth_onSchedule unitCircle 1 1 1
  have hunit : fresh.plan.startRadius = ⟨1, 0⟩ := by
    have hfirst : unitCircle.offset.get unitCircle.plane.first = -1 := rfl
    have hsecond : unitCircle.offset.get unitCircle.plane.second = 0 := rfl
    rw [hstart, hfirst, hsecond, neg_neg, neg_zero]
  have hindex {index : Nat} (h : index < 6) : index < fresh.plan.segments.toNat := hsegments ▸ h
  refine ⟨hsegments, ?_, ?_, ?_, hsame [0, 0] [1] [0] rfl rfl (hindex (by decide))⟩
  · have hfirst := (hschedule [] 0 (hindex (by decide))).turned rfl nofun
    have hbefore : (fresh.askAll []).radius = ⟨1, 0⟩ := hfresh.trans hunit
    rw [hbefore, hstep] at hfirst
    refine hfirst.trans (congrArg₂ Planar.mk ?_ ?_)
    · norm_num
      ring
    · norm_num
  · have hsecond := (hschedule [0] 0 (hindex (by decide))).exact (.inr rfl)
    have hangle : Scalar.ofWord (UInt64.ofNat (passedBy [0] + (0 : UInt64).toNat + 1)) *
        fresh.plan.stepAngle = -(Real.pi - Real.pi / 3) := by
      rw [hstep]
      change ((2 : ℕ) : ℝ) * _ = _
      push_cast
      ring
    rw [hangle, hunit] at hsecond
    refine hsecond.trans ((exact_turned_first _).trans ?_)
    rw [Real.cos_neg, Real.sin_neg, Real.cos_pi_sub, Real.sin_pi_sub, Real.cos_pi_div_three,
      Real.sin_pi_div_three]
  · have hfourth := (hschedule [0] 2 (hindex (by decide))).exact (.inl (by decide))
    have hangle : Scalar.ofWord (UInt64.ofNat (passedBy [0] + (2 : UInt64).toNat + 1)) *
        fresh.plan.stepAngle = -(Real.pi / 3 + Real.pi) := by
      rw [hstep]
      change ((4 : ℕ) : ℝ) * _ = _
      push_cast
      ring
    rw [hangle, hunit] at hfourth
    refine hfourth.trans ((exact_turned_first _).trans ?_)
    rw [Real.cos_neg, Real.sin_neg, Real.cos_add_pi, Real.sin_add_pi, Real.cos_pi_div_three,
      Real.sin_pi_div_three, neg_neg]

end ArcWalk

end Toolpath
