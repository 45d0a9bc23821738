import Mathlib.Data.Real.Basic
import Toolpath.Proofs.Move.Drift

/-!
# The place of an arc among its waypoints

Where an arc stands after some calls follows from how many indices they pass, and from nothing else:
passing over waypoints leads to the same place as asking for them one after the other. Calls beyond
the last waypoint find nothing and leave the arc at its end. In exact arithmetic the place also
tells how far the arc has risen.
-/

namespace Toolpath

variable {α : Type} [Scalar α]

namespace ArcWalk

variable {arc : ArcWalk α}

/-- An arc stands behind the indices that some calls pass, and the next call does what its place
asks for: it finds nothing, or hands out the waypoint whose index is so much farther on. -/
structure KeepsPlace (fresh : ArcWalk α) (last : Waypoint α) (calls : List UInt64)
    (skipped : UInt64) : Prop where
  /-- The cursor is never farther than past the last index. -/
  cursor_le : (fresh.askAll calls).cursor.toNat ≤ fresh.plan.segments.toNat + 1
  /-- It is where it would be, had the waypoints been asked for one after the other. -/
  sequential : (fresh.askAll calls).cursor =
    (fresh.askAll (List.replicate (passedBy calls) 0)).cursor
  /-- As many waypoints are left as indices have not been passed. -/
  remaining : (fresh.askAll calls).remaining = fresh.plan.segments.toNat - passedBy calls
  /-- The call finds nothing exactly when it passes over all that is left. -/
  none_iff : ((fresh.askAll calls).nth skipped).1 = none ↔
    (fresh.askAll calls).remaining ≤ skipped.toNat
  /-- Otherwise it hands out a waypoint at the rate of the arc, and moves the cursor behind its
  index. At the last index the waypoint is the target. -/
  handsOut : skipped.toNat < (fresh.askAll calls).remaining →
    ∃ waypoint, ((fresh.askAll calls).nth skipped).1 = some waypoint ∧ waypoint.rate = last.rate ∧
      ((fresh.askAll calls).nth skipped).2.cursor.toNat = passedBy calls + skipped.toNat + 1 + 1 ∧
      (passedBy calls + skipped.toNat + 1 = fresh.plan.segments.toNat → waypoint = last)
  /-- Afterwards so many waypoints less are left, or none. -/
  remaining_after : ((fresh.askAll calls).nth skipped).2.remaining =
    (fresh.askAll calls).remaining - (skipped.toNat + 1)
  /-- Once a call found nothing, no later one does, and nothing is left. -/
  ended : ((fresh.askAll calls).nth skipped).1 = none → ∀ later more,
    ((fresh.askAll (calls ++ skipped :: later)).nth more).1 = none ∧
      (fresh.askAll (calls ++ skipped :: later)).remaining = 0

/-- The cursor of a fresh arc is never farther than past the last index. -/
theorem askAll_cursor_le (hfresh : arc.cursor = 1) (calls : List UInt64) :
    (arc.askAll calls).cursor.toNat ≤ (arc.askAll calls).plan.segments.toNat + 1 := by
  rw [askAll_cursor hfresh, askAll_plan]
  omega

/-- Of a fresh arc as many waypoints are left as indices have not been passed. -/
theorem askAll_remaining (hfresh : arc.cursor = 1) (calls : List UInt64) :
    (arc.askAll calls).remaining = arc.plan.segments.toNat - passedBy calls := by
  rw [remaining, askAll_cursor hfresh, askAll_plan]
  omega

/-- A call on a fresh arc that does not pass over all that is left hands out a waypoint and moves
the cursor behind its index. -/
theorem exists_nth (hfresh : arc.cursor = 1) {calls : List UInt64} {skipped : UInt64}
    (hlt : skipped.toNat < (arc.askAll calls).remaining) :
    ∃ waypoint, ((arc.askAll calls).nth skipped).1 = some waypoint ∧
      waypoint.rate = arc.plan.rate ∧
      ((arc.askAll calls).nth skipped).2.cursor.toNat = passedBy calls + skipped.toNat + 1 + 1 ∧
      (passedBy calls + skipped.toNat + 1 = arc.plan.segments.toNat →
        waypoint = ⟨arc.plan.target, arc.plan.rate⟩) := by
  have hplan := arc.askAll_plan calls
  have hcursor := askAll_cursor hfresh calls
  have hnth := nth_cursor (askAll_cursor_le hfresh calls) skipped
  rw [askAll_remaining hfresh] at hlt
  rw [hcursor, hplan] at hnth
  rcases Nat.lt_or_ge (passedBy calls + skipped.toNat + 1) arc.plan.segments.toNat with
    hbefore | hlast
  · have hplaced : (arc.askAll calls).cursor.toNat + skipped.toNat <
        (arc.askAll calls).plan.segments.toNat := by
      rw [hcursor, hplan]
      omega
    have hstep := nth_of_lt hplaced
    rw [hplan] at hstep
    exact ⟨_, congrArg Prod.fst hstep, rfl, by omega, fun heq => absurd heq (Nat.ne_of_lt hbefore)⟩
  · have hplaced : (arc.askAll calls).cursor.toNat + skipped.toNat =
        (arc.askAll calls).plan.segments.toNat := by
      rw [hcursor, hplan]
      omega
    have hstep := nth_of_eq hplaced
    rw [hplan] at hstep
    exact ⟨_, hstep, rfl, by omega, fun _ => rfl⟩

/-- What the indices that are passed say about the place of a fresh arc. -/
theorem keepsPlace (hfresh : arc.cursor = 1) (calls : List UInt64) (skipped : UInt64) :
    arc.KeepsPlace ⟨arc.plan.target, arc.plan.rate⟩ calls skipped := by
  have hplace := askAll_cursor_le hfresh calls
  have hremaining := askAll_remaining hfresh calls
  have hnone := nth_eq_none_iff hplace skipped
  refine ⟨arc.askAll_plan calls ▸ hplace, ?_, hremaining, hnone, exists_nth hfresh, ?_,
    fun hend later more => ?_⟩
  · rw [← UInt64.toNat_inj, askAll_cursor hfresh, askAll_cursor hfresh, passedBy_replicate]
  · have hafter := askAll_remaining hfresh (calls ++ [skipped])
    rw [askAll_concat, passedBy_concat] at hafter
    rw [hafter, hremaining]
    omega
  · -- what has been passed is more than there is, and later calls only add to it
    rw [hnone, hremaining] at hend
    have hlater := askAll_remaining hfresh (calls ++ skipped :: later)
    have hpassed : passedBy (calls ++ skipped :: later) =
        passedBy calls + (skipped.toNat + 1 + passedBy later) := by
      rw [passedBy_append, passedBy_cons]
    have hzero : (arc.askAll (calls ++ skipped :: later)).remaining = 0 := by omega
    refine ⟨?_, hzero⟩
    rw [nth_eq_none_iff (askAll_cursor_le hfresh _), hzero]
    exact Nat.zero_le _

/-- In exact arithmetic the waypoints that are passed over add their rises. -/
theorem exact_perpendicular_reached {arc : ArcWalk ℝ} {skipped : UInt64}
    (h : arc.cursor.toNat + skipped.toNat < arc.plan.segments.toNat) :
    (arc.reached skipped).point.get arc.plan.plane.perpendicular =
      arc.point.get arc.plan.plane.perpendicular + skipped.toNat * arc.plan.stepRise := by
  unfold reached
  by_cases hskip : skipped = 0
  · have hzero : ((0 : UInt64).toNat : ℝ) = 0 := Nat.cast_zero
    rw [if_pos hskip, hskip, hzero, zero_mul, add_zero]
  · have hlt : skipped < arc.left := by
      rw [UInt64.lt_iff_toNat_lt, left_toNat (by omega), remaining]
      omega
    have hword : (Scalar.ofWord skipped : ℝ) = skipped.toNat := rfl
    rw [if_neg hskip, skip]
    simp only [if_pos hlt]
    rw [PerAxis.get_set_self, hword, mul_comm]

/-- In exact arithmetic a fresh arc rises by one rise for each index that the calls pass, as long as
they do not come to the last one. -/
theorem exact_perpendicular_askAll {arc : ArcWalk ℝ} (hfresh : arc.cursor = 1)
    (calls : List UInt64) (h : passedBy calls < arc.plan.segments.toNat) :
    (arc.askAll calls).point.get arc.plan.plane.perpendicular =
      arc.point.get arc.plan.plane.perpendicular + passedBy calls * arc.plan.stepRise := by
  refine askAll_induction hfresh (motive := fun calls walk =>
    walk.point.get arc.plan.plane.perpendicular =
      arc.point.get arc.plan.plane.perpendicular + passedBy calls * arc.plan.stepRise)
    ?_ ?_ calls h
  · have hnone : (passedBy [] : ℝ) = 0 := Nat.cast_zero
    rw [hnone, zero_mul, add_zero]
  · intro calls skipped walk hplan hcursor hlt hwalk
    rw [passedBy_concat] at hlt
    have hmoved := (walk.reached skipped).perpendicular_moved
    have hplaced : walk.cursor.toNat + skipped.toNat < walk.plan.segments.toNat := by
      rw [hcursor, hplan]
      omega
    have hreached := exact_perpendicular_reached hplaced
    rw [reached_plan, hplan] at hmoved
    rw [hplan] at hreached
    rw [hmoved, hreached, hwalk, passedBy_concat]
    push_cast
    ring

/-- Arcs keep their place, their length and their end, whatever is asked of them. Any arc, cut by
any length and any interval, has no segments if its length is found to be zero, and otherwise at
least one and as many as a word can hold. Asking for the next waypoint is passing over none. After
any calls it has as many waypoints left as indices have not been passed, and the next call finds the
waypoint whose index is so much farther on, the target at the last index, or nothing. In exact
arithmetic each waypoint before the last one has risen by one rise for each index, however its index
was reached. -/
theorem nth_keepsPlace (arc : Arc α) (rate maxLength : α) (interval : UInt8) :
    let fresh := cut arc rate maxLength interval
    let segments := fresh.plan.segments.toNat
    ((arc.length == (0.0 : α)) = true → segments = 0) ∧
    (¬ (arc.length == (0.0 : α)) = true → 1 ≤ segments ∧ segments ≤ 2 ^ 32 - 1) ∧
    (∀ calls, (fresh.askAll calls).next = (fresh.askAll calls).nth 0) ∧
    (∀ calls skipped, fresh.KeepsPlace ⟨arc.target, rate⟩ calls skipped) ∧
    ∀ (helix : Arc ℝ) (rate maxLength : ℝ) (interval : UInt8) (calls : List UInt64)
      (skipped : UInt64),
      let fresh := cut helix rate maxLength interval
      let index := passedBy calls + skipped.toNat + 1
      index < fresh.plan.segments.toNat →
        ∃ waypoint, ((fresh.askAll calls).nth skipped).1 = some waypoint ∧
          waypoint.point.get helix.plane.perpendicular =
            helix.start.get helix.plane.perpendicular + index * fresh.plan.stepRise := by
  intro fresh segments
  have hsegments : fresh.plan.segments =
      if arc.length == (0.0 : α) then 0
      else atLeastOne (Scalar.floorCount (arc.length / maxLength)) := rfl
  refine ⟨fun hzero => ?_, fun hpath => ⟨?_, ?_⟩, fun calls => (nth_zero _).symm,
    fun calls skipped => keepsPlace rfl calls skipped, ?_⟩
  · change fresh.plan.segments.toNat = 0
    rw [hsegments, if_pos hzero]
    rfl
  · change 1 ≤ fresh.plan.segments.toNat
    rw [hsegments, if_neg hpath]
    exact atLeastOne_pos _
  · exact Nat.le_sub_one_of_lt fresh.plan.segments.toNat_lt
  · intro helix rate maxLength interval calls skipped fresh index hindex
    have hpassed : passedBy (calls ++ [skipped]) = index := passedBy_concat calls skipped
    have hlt : passedBy (calls ++ [skipped]) < fresh.plan.segments.toNat := hpassed ▸ hindex
    have hcursor : fresh.cursor = 1 := rfl
    have hstep := askAll_concat_of_lt hcursor hlt
    have hrise := exact_perpendicular_askAll hcursor _ hlt
    rw [askAll_concat, hstep, hpassed] at hrise
    exact ⟨_, congrArg Prod.fst hstep, hrise⟩

/-- A helix that rises without a turn, by one millimeter in each of its five segments: behind two of
its indices the next waypoint is three millimeters up, passing over two leads to the target, and
passing over as many as a word can count finds nothing. -/
theorem nth_keepsPlace_riser :
    let riser : Arc ℝ := .ofOffset ⟨1, 0, 0⟩ ⟨1, 0, 5⟩ ⟨-1, 0, 0⟩ .counterClockwise .xy
    let fresh := cut riser 1 1 25
    let walk := fresh.askAll [1]
    fresh.plan.segments.toNat = 5 ∧ fresh.plan.stepRise = 1 ∧ walk.remaining = 3 ∧
    (∃ waypoint, (walk.nth 0).1 = some waypoint ∧ waypoint.point.z = 3) ∧
    (walk.nth 2).1 = some ⟨riser.target, 1⟩ ∧
    (walk.nth 0xFFFFFFFFFFFFFFFF).1 = none := by
  intro riser fresh walk
  have hclosed : riser.targetRadius = riser.startRadius := by
    change Planar.mk ((1 : ℝ) - (1 + -1)) (0 - (0 + 0)) = Planar.mk (- -1) (-0)
    norm_num
  have hsweep : riser.sweep = 0 := Arc.exact_counterClockwiseAngle_of_closed hclosed
  have hrise : riser.rise = 5 := by
    change (5 : ℝ) - 0 = 5
    norm_num
  have hlength : riser.length = 5 := by
    rw [Arc.length, hsweep, hrise, zero_mul]
    change √((0 : ℝ) * 0 + |5| * |5|) = 5
    rw [zero_mul, zero_add, Real.sqrt_mul_self (abs_nonneg _)]
    norm_num
  have hsegments : fresh.plan.segments.toNat = 5 := by
    refine ArcPlan.exact_cut_segments 1 25 ?_ ?_ (by norm_num) (by decide)
    · rw [hlength]
      norm_num
    · rw [hlength]
      norm_num
  have hstepRise : fresh.plan.stepRise = 1 := by
    have hshare : fresh.plan.stepRise = riser.rise / fresh.plan.segments.toNat :=
      (ArcPlan.exact_cut_shares (hsegments ▸ by norm_num)).2
    rw [hshare, hrise, hsegments]
    norm_num
  obtain ⟨-, -, -, hplace, hhelix⟩ := nth_keepsPlace riser 1 1 25
  have hleft : walk.remaining = 3 := by
    have hremaining := (hplace [1] 0).remaining
    rw [hsegments] at hremaining
    exact hremaining
  refine ⟨hsegments, hstepRise, hleft, ?_, ?_, ?_⟩
  · obtain ⟨waypoint, hwaypoint, hheight⟩ := hhelix riser 1 1 25 [1] 0 (by
      change 3 < fresh.plan.segments.toNat
      rw [hsegments]
      norm_num)
    refine ⟨waypoint, hwaypoint, ?_⟩
    change waypoint.point.z = 0 + ((3 : ℕ) : ℝ) * fresh.plan.stepRise at hheight
    rw [hheight, hstepRise]
    norm_num
  · obtain ⟨waypoint, hwaypoint, -, -, htarget⟩ := (hplace [1] 2).handsOut (by
      rw [hleft]
      decide)
    rw [hwaypoint, htarget hsegments.symm]
  · rw [(hplace [1] 0xFFFFFFFFFFFFFFFF).none_iff, hleft]
    decide

end ArcWalk

end Toolpath
