import Mathlib.Data.List.Induction
import Toolpath.Proofs.Move.Arrival

/-!
# Calls of an arc

Waypoints of an arc are asked for one at a time, each call passing over a number of them. What the
calls passed over so far decides how many approximate turns separate the radius vector from an exact
one: a call that passes over none adds a turn while the interval lasts, every other call lands on an
exact radius vector.
-/

namespace Toolpath

variable {α : Type} [Scalar α]

namespace ArcWalk

/-- The arc after calls that each pass over a number of waypoints. -/
def askAll (arc : ArcWalk α) (calls : List UInt64) : ArcWalk α :=
  calls.foldl (fun walk skipped => (walk.nth skipped).2) arc

/-- Approximate turns since an exact radius vector, one call later. -/
def turnsNext (interval turns : Nat) (skipped : UInt64) : Nat :=
  if skipped = 0 ∧ turns < interval then turns + 1 else 0

/-- Approximate turns since an exact radius vector, after calls that each pass over a number of
waypoints. -/
def turnsAfter (interval : Nat) (calls : List UInt64) : Nat :=
  calls.foldl (turnsNext interval) 0

/-- The last call comes after the others. -/
theorem askAll_concat (arc : ArcWalk α) (calls : List UInt64) (skipped : UInt64) :
    arc.askAll (calls ++ [skipped]) = ((arc.askAll calls).nth skipped).2 :=
  List.foldl_append

/-- The last call counts from where the others led. -/
theorem turnsAfter_concat (interval : Nat) (calls : List UInt64) (skipped : UInt64) :
    turnsAfter interval (calls ++ [skipped]) =
      turnsNext interval (turnsAfter interval calls) skipped := List.foldl_append

/-- There are never more turns than the interval allows. -/
theorem turnsAfter_le (interval : Nat) (calls : List UInt64) :
    turnsAfter interval calls ≤ interval := by
  induction calls using List.reverseRecOn with
  | nil => exact Nat.zero_le _
  | append_singleton calls skipped ih =>
    rw [turnsAfter_concat, turnsNext]
    split
    · rename_i h
      exact h.2
    · exact Nat.zero_le _

/-- When no waypoint is passed over, turns are counted from zero to the interval, again and
again. -/
theorem turnsAfter_replicate (interval count : Nat) :
    turnsAfter interval (List.replicate count 0) = count % (interval + 1) := by
  induction count with
  | zero => rfl
  | succ count ih =>
    rw [List.replicate_succ', turnsAfter_concat, ih, turnsNext]
    have hparts := Nat.div_add_mod count (interval + 1)
    have hlt : count % (interval + 1) < interval + 1 := Nat.mod_lt _ (Nat.succ_pos _)
    generalize count / (interval + 1) = rounds at hparts
    generalize count % (interval + 1) = turns at hparts hlt ⊢
    by_cases h : turns < interval
    · rw [if_pos ⟨rfl, h⟩, ← hparts, Nat.add_assoc, Nat.mul_add_mod,
        Nat.mod_eq_of_lt (Nat.succ_lt_succ h)]
    · have hturns : turns = interval := by omega
      rw [if_neg (fun hboth => h hboth.2), ← hparts, hturns, Nat.add_assoc, ← Nat.mul_succ,
        Nat.mul_mod_right]

variable {arc : ArcWalk α}

/-- The state after an intermediate waypoint, whose point is the one that is handed out. -/
def moved (arc : ArcWalk α) : ArcWalk α :=
  (({ arc with cursor := arc.cursor + 1 } : ArcWalk α).advanceRadius arc.cursor).advancePoint

/-- Bringing the radius vector on changes nothing of the fixed part. -/
theorem advanceRadius_plan (arc : ArcWalk α) (index : UInt64) :
    (arc.advanceRadius index).plan = arc.plan := by
  unfold advanceRadius
  split <;> rfl

/-- Neither does moving on. -/
theorem moved_plan (arc : ArcWalk α) : arc.moved.plan = arc.plan := advanceRadius_plan _ _

/-- The cursor moves on by one. -/
theorem moved_cursor (arc : ArcWalk α) : arc.moved.cursor = arc.cursor + 1 := by
  simp only [moved, advancePoint, advanceRadius]
  split <;> rfl

/-- Before its last waypoint an arc hands out the point to which it moves. -/
theorem next_of_lt (h : arc.cursor.toNat < arc.plan.segments.toNat) :
    arc.next = (some ⟨arc.moved.point, arc.plan.rate⟩, arc.moved) := by
  have hlast : arc.cursor ≠ arc.plan.segments.toUInt64 := by
    intro heq
    rw [heq, UInt32.toNat_toUInt64] at h
    exact Nat.lt_irrefl _ h
  simp only [next]
  rw [if_neg (not_lt_cursor (Nat.le_of_lt h)), if_neg hlast]
  change (some (Waypoint.mk arc.moved.point arc.moved.plan.rate), arc.moved) = _
  rw [moved_plan]

/-- An image of an arc hands out the image of the next waypoint if it has come to the same index of
as many segments, moves to the image of where the arc moves and ends at the image of the target. -/
theorem next_image {view : ArcWalk α → ArcWalk α} {change : Waypoint α → Waypoint α}
    (hsegments : (view arc).plan.segments = arc.plan.segments)
    (hcursor : (view arc).cursor = arc.cursor)
    (hmoved : ((⟨(view arc).moved.point, (view arc).plan.rate⟩ : Waypoint α), (view arc).moved) =
      (change ⟨arc.moved.point, arc.plan.rate⟩, view arc.moved))
    (hlast : ((⟨(view arc).plan.target, (view arc).plan.rate⟩ : Waypoint α),
        { view arc with cursor := (view arc).cursor + 1 }) =
      (change ⟨arc.plan.target, arc.plan.rate⟩, view { arc with cursor := arc.cursor + 1 })) :
    (view arc).next = (arc.next.1.map change, view arc.next.2) := by
  obtain ⟨hpoint, hplace⟩ := Prod.mk.inj hmoved
  obtain ⟨htarget, hend⟩ := Prod.mk.inj hlast
  rcases Nat.lt_trichotomy arc.cursor.toNat arc.plan.segments.toNat with hlt | heq | hgt
  · have himage : (view arc).cursor.toNat < (view arc).plan.segments.toNat := by
      rw [hsegments, hcursor]
      exact hlt
    rw [next_of_lt himage, next_of_lt hlt, hpoint, hplace, Option.map_some]
  · have himage : (view arc).cursor.toNat = (view arc).plan.segments.toNat := by
      rw [hsegments, hcursor]
      exact heq
    rw [next_of_eq himage, next_of_eq heq, htarget, hend, Option.map_some]
  · have himage : (view arc).plan.segments.toNat < (view arc).cursor.toNat := by
      rw [hsegments, hcursor]
      exact hgt
    rw [next_of_gt himage, next_of_gt hgt, Option.map_none]

/-- An arc that has waypoints left after a call handed out an intermediate one. -/
theorem lt_of_next_le (h : arc.next.2.cursor.toNat ≤ arc.plan.segments.toNat) :
    arc.cursor.toNat < arc.plan.segments.toNat := by
  rcases Nat.lt_or_ge arc.plan.segments.toNat arc.cursor.toNat with hpast | hle
  · rw [next_of_gt hpast] at h
    exact absurd h (Nat.not_le_of_lt hpast)
  · obtain ⟨-, -, hcursor, -⟩ := next_of_le hle
    rw [hcursor, cursor_succ hle] at h
    exact h

/-- While the interval lasts an intermediate waypoint turns the radius vector approximately. -/
theorem moved_of_turns_lt (h : arc.turns < arc.plan.correctionInterval) :
    arc.moved.radius = arc.plan.smallTurn arc.radius ∧ arc.moved.turns = arc.turns + 1 := by
  simp only [moved, advanceRadius]
  rw [if_pos h]
  exact ⟨rfl, rfl⟩

/-- At the end of the interval an intermediate waypoint makes the radius vector exact. -/
theorem moved_of_not_turns_lt (h : ¬ arc.turns < arc.plan.correctionInterval) :
    arc.moved.radius = arc.plan.exactRadius arc.cursor ∧ arc.moved.turns = 0 := by
  simp only [moved, advanceRadius]
  rw [if_neg h]
  exact ⟨rfl, rfl⟩

/-- The turns of a waypoint are counted without wrapping: one more than before, or none. -/
theorem moved_turns_toNat (arc : ArcWalk α) :
    arc.moved.turns.toNat =
      if arc.turns < arc.plan.correctionInterval then arc.turns.toNat + 1 else 0 := by
  by_cases hlt : arc.turns < arc.plan.correctionInterval
  · have hinterval := arc.plan.correctionInterval.toNat_lt
    have hnat := UInt8.lt_iff_toNat_lt.mp hlt
    rw [if_pos hlt, (moved_of_turns_lt hlt).2, UInt8.toNat_add, UInt8.toNat_one, Nat.mod_eq_of_lt]
    omega
  · rw [if_neg hlt, (moved_of_not_turns_lt hlt).2]
    rfl

/-- In its plane the point that is reached lies at the end of the radius vector. -/
theorem planar_advancePoint (arc : ArcWalk α) :
    arc.plan.plane.planar arc.advancePoint.point = arc.plan.center.add arc.radius := by
  have hsecond := arc.plan.plane.first_ne_second
  have hfirst := arc.plan.plane.first_ne_perpendicular
  have hsecond' := arc.plan.plane.second_ne_perpendicular
  simp only [advancePoint, Plane.planar, PerAxis.get_set_of_ne _ _ hfirst,
    PerAxis.get_set_of_ne _ _ hsecond', PerAxis.get_set_of_ne _ _ hsecond, PerAxis.get_set_self]

/-- Across its plane the point that is reached is one rise farther on. -/
theorem perpendicular_advancePoint (arc : ArcWalk α) :
    arc.advancePoint.point.get arc.plan.plane.perpendicular =
      arc.point.get arc.plan.plane.perpendicular + arc.plan.stepRise :=
  PerAxis.get_set_self _ _ _

/-- In its plane the point to which an arc moves lies at the end of the radius vector. -/
theorem planar_moved (arc : ArcWalk α) :
    arc.plan.plane.planar arc.moved.point = arc.plan.center.add arc.moved.radius := by
  have hpoint := planar_advancePoint
    (({ arc with cursor := arc.cursor + 1 } : ArcWalk α).advanceRadius arc.cursor)
  rw [advanceRadius_plan] at hpoint
  exact hpoint

/-- Across its plane the point to which an arc moves is one rise farther on. -/
theorem perpendicular_moved (arc : ArcWalk α) :
    arc.moved.point.get arc.plan.plane.perpendicular =
      arc.point.get arc.plan.plane.perpendicular + arc.plan.stepRise := by
  simp only [moved, advancePoint, advanceRadius]
  split <;> rw [PerAxis.get_set_self]

/-- Before the last waypoint, a call that passes over none moves the arc. -/
theorem askAll_concat_zero {calls : List UInt64}
    (h : (arc.askAll calls).cursor.toNat < (arc.askAll calls).plan.segments.toNat) :
    arc.askAll (calls ++ [0]) = (arc.askAll calls).moved := by
  rw [askAll_concat, nth_zero, next_of_lt h]

/-- Handing out a waypoint leaves the plan as it is, however many are passed over. -/
theorem nth_plan (arc : ArcWalk α) (skipped : UInt64) : (arc.nth skipped).2.plan = arc.plan := by
  rw [nth, next_plan]
  split <;> rfl

/-- The fixed part stays fixed whatever is asked. -/
theorem askAll_plan (arc : ArcWalk α) (calls : List UInt64) :
    (arc.askAll calls).plan = arc.plan := by
  induction calls using List.reverseRecOn with
  | nil => rfl
  | append_singleton calls skipped ih => rw [askAll_concat, nth_plan, ih]

/-- The arc once waypoints have been passed over, before the one behind them is handed out. -/
def reached (arc : ArcWalk α) (skipped : UInt64) : ArcWalk α :=
  if skipped = 0 then arc else arc.skip skipped

/-- A call hands out the next waypoint once the others have been passed over. -/
theorem nth_eq_next (arc : ArcWalk α) (skipped : UInt64) :
    arc.nth skipped = (arc.reached skipped).next := rfl

/-- Passing over waypoints leaves the plan as it is. -/
theorem reached_plan (arc : ArcWalk α) (skipped : UInt64) :
    (arc.reached skipped).plan = arc.plan := by
  unfold reached
  split <;> rfl

omit [Scalar α] in
/-- The word of the waypoints that are left is their number. -/
theorem left_toNat (hplace : arc.cursor.toNat ≤ arc.plan.segments.toNat + 1) :
    arc.left.toNat = arc.remaining := by
  have hsegments := arc.plan.segments.toNat_lt
  have hone : (1 : UInt64).toNat = 1 := rfl
  unfold left remaining
  by_cases hpast : arc.plan.segments.toUInt64 < arc.cursor
  · rw [if_pos hpast]
    rw [lt_cursor_iff] at hpast
    change 0 = _
    omega
  · have hsum : (arc.plan.segments.toUInt64 + 1).toNat = arc.plan.segments.toNat + 1 := by
      rw [UInt64.toNat_add, UInt32.toNat_toUInt64, hone, Nat.mod_eq_of_lt]
      omega
    rw [if_neg hpast, UInt64.toNat_sub_of_le, hsum]
    rw [UInt64.le_iff_toNat_le, hsum]
    exact hplace

/-- No more waypoints are passed over than are left. -/
theorem reached_cursor (hplace : arc.cursor.toNat ≤ arc.plan.segments.toNat + 1)
    (skipped : UInt64) :
    (arc.reached skipped).cursor.toNat = arc.cursor.toNat + min skipped.toNat arc.remaining := by
  have hsegments := arc.plan.segments.toNat_lt
  have hleft := left_toNat hplace
  unfold reached
  by_cases hskip : skipped = 0
  · rw [if_pos hskip, hskip]
    change _ = _ + min 0 _
    rw [Nat.zero_min, Nat.add_zero]
  · have hpassed : (if skipped < arc.left then skipped else arc.left).toNat =
        min skipped.toNat arc.remaining := by
      by_cases hlt : skipped < arc.left
      · rw [if_pos hlt]
        rw [UInt64.lt_iff_toNat_lt, hleft] at hlt
        rw [Nat.min_eq_left (Nat.le_of_lt hlt)]
      · rw [if_neg hlt, hleft]
        rw [UInt64.lt_iff_toNat_lt, hleft] at hlt
        rw [Nat.min_eq_right (Nat.le_of_not_lt hlt)]
    rw [if_neg hskip]
    change (arc.cursor + if skipped < arc.left then skipped else arc.left).toNat = _
    rw [UInt64.toNat_add, hpassed, Nat.mod_eq_of_lt]
    rw [remaining]
    omega

/-- Once waypoints have been passed over without coming to the end, the cursor is so much farther
on. -/
theorem reached_cursor_of_le {skipped : UInt64}
    (h : arc.cursor.toNat + skipped.toNat ≤ arc.plan.segments.toNat) :
    (arc.reached skipped).cursor.toNat = arc.cursor.toNat + skipped.toNat := by
  rw [reached_cursor (by omega), remaining]
  omega

/-- Nothing is handed out exactly when the cursor is past the last index. -/
theorem next_eq_none_iff : arc.next.1 = none ↔ arc.plan.segments.toNat < arc.cursor.toNat := by
  rcases Nat.lt_or_ge arc.plan.segments.toNat arc.cursor.toNat with hpast | hle
  · rw [next_of_gt hpast]
    exact ⟨fun _ => hpast, fun _ => rfl⟩
  · obtain ⟨waypoint, hwaypoint, -⟩ := next_of_le hle
    rw [hwaypoint]
    exact ⟨nofun, fun hpast => absurd hle (Nat.not_le_of_lt hpast)⟩

/-- The cursor steps on by one, but never farther than past the last index. -/
theorem next_cursor (hplace : arc.cursor.toNat ≤ arc.plan.segments.toNat + 1) :
    arc.next.2.cursor.toNat = min (arc.cursor.toNat + 1) (arc.plan.segments.toNat + 1) := by
  rcases Nat.lt_or_ge arc.plan.segments.toNat arc.cursor.toNat with hpast | hle
  · rw [next_of_gt hpast]
    dsimp only
    omega
  · obtain ⟨-, -, hcursor, -⟩ := next_of_le hle
    rw [hcursor, cursor_succ hle]
    omega

/-- A call moves the cursor past the indices that it passes, but never farther than past the last
one. -/
theorem nth_cursor (hplace : arc.cursor.toNat ≤ arc.plan.segments.toNat + 1) (skipped : UInt64) :
    (arc.nth skipped).2.cursor.toNat =
      min (arc.cursor.toNat + skipped.toNat + 1) (arc.plan.segments.toNat + 1) := by
  have hreached := reached_cursor hplace skipped
  have hplan := arc.reached_plan skipped
  rw [remaining] at hreached
  rw [nth_eq_next, next_cursor (by rw [hplan]; omega), hplan]
  omega

/-- A call finds nothing exactly when it passes over all waypoints that are left. -/
theorem nth_eq_none_iff (hplace : arc.cursor.toNat ≤ arc.plan.segments.toNat + 1)
    (skipped : UInt64) : (arc.nth skipped).1 = none ↔ arc.remaining ≤ skipped.toNat := by
  rw [nth_eq_next, next_eq_none_iff, reached_plan, reached_cursor hplace, remaining]
  omega

/-- A call that does not come to the last index hands out the point to which the arc moves. -/
theorem nth_of_lt {skipped : UInt64}
    (h : arc.cursor.toNat + skipped.toNat < arc.plan.segments.toNat) :
    arc.nth skipped =
      (some ⟨(arc.reached skipped).moved.point, arc.plan.rate⟩, (arc.reached skipped).moved) := by
  have hplan := arc.reached_plan skipped
  have hlt : (arc.reached skipped).cursor.toNat < (arc.reached skipped).plan.segments.toNat := by
    rw [reached_cursor_of_le (Nat.le_of_lt h), hplan]
    exact h
  rw [nth_eq_next, next_of_lt hlt, hplan]

/-- A call that comes to the last index hands out the target. -/
theorem nth_of_eq {skipped : UInt64}
    (h : arc.cursor.toNat + skipped.toNat = arc.plan.segments.toNat) :
    (arc.nth skipped).1 = some ⟨arc.plan.target, arc.plan.rate⟩ := by
  have hplan := arc.reached_plan skipped
  have hcursor := reached_cursor_of_le (Nat.le_of_eq h)
  rw [h, ← hplan] at hcursor
  obtain ⟨waypoint, hwaypoint, -, hlast⟩ := next_of_le (Nat.le_of_eq hcursor)
  rw [nth_eq_next, hwaypoint, hlast hcursor, hplan]

/-- Number of indices that calls pass, those of the waypoints that they hand out included, if the
arc does not end before. -/
def passedBy (calls : List UInt64) : Nat :=
  calls.foldl (fun passed skipped => passed + skipped.toNat + 1) 0

/-- The last call passes its indices after the others. -/
theorem passedBy_concat (calls : List UInt64) (skipped : UInt64) :
    passedBy (calls ++ [skipped]) = passedBy calls + skipped.toNat + 1 := List.foldl_append

/-- Calls that pass over no waypoint pass one index each. -/
theorem passedBy_replicate (count : Nat) : passedBy (List.replicate count 0) = count := by
  induction count with
  | zero => rfl
  | succ count ih =>
    rw [List.replicate_succ', passedBy_concat, ih]
    rfl

/-- Calls one after the other pass their indices one after the other. -/
theorem passedBy_append (calls later : List UInt64) :
    passedBy (calls ++ later) = passedBy calls + passedBy later := by
  induction later using List.reverseRecOn with
  | nil => rw [List.append_nil]; rfl
  | append_singleton later skipped ih =>
    rw [← List.append_assoc, passedBy_concat, passedBy_concat, ih]
    omega

/-- The indices of the first call are passed first. -/
theorem passedBy_cons (skipped : UInt64) (later : List UInt64) :
    passedBy (skipped :: later) = skipped.toNat + 1 + passedBy later := by
  have hfirst : passedBy [skipped] = skipped.toNat + 1 := by
    change 0 + skipped.toNat + 1 = _
    rw [Nat.zero_add]
  change passedBy ([skipped] ++ later) = _
  rw [passedBy_append, hfirst]

/-- The cursor of a fresh arc is behind the indices that the calls pass, but never farther than past
the last one. -/
theorem askAll_cursor (hfresh : arc.cursor = 1) (calls : List UInt64) :
    (arc.askAll calls).cursor.toNat = min (passedBy calls) arc.plan.segments.toNat + 1 := by
  induction calls using List.reverseRecOn with
  | nil =>
    have hone : arc.cursor.toNat = 1 := congrArg UInt64.toNat hfresh
    change arc.cursor.toNat = min 0 _ + 1
    omega
  | append_singleton calls skipped ih =>
    have hplan := arc.askAll_plan calls
    rw [askAll_concat, nth_cursor (by rw [ih, hplan]; omega), ih, hplan, passedBy_concat]
    omega

/-- While the calls have not come to the last index, the cursor counts the indices that they pass.
-/
theorem askAll_cursor_of_lt (hfresh : arc.cursor = 1) {calls : List UInt64}
    (h : passedBy calls < arc.plan.segments.toNat) :
    (arc.askAll calls).cursor.toNat = passedBy calls + 1 := by
  rw [askAll_cursor hfresh, Nat.min_eq_left (Nat.le_of_lt h)]

/-- The state after a call that does not come to the last index is the one to which the arc moves
once waypoints have been passed over. -/
theorem askAll_concat_of_lt (hfresh : arc.cursor = 1) {calls : List UInt64} {skipped : UInt64}
    (h : passedBy (calls ++ [skipped]) < arc.plan.segments.toNat) :
    (arc.askAll calls).nth skipped =
      (some ⟨((arc.askAll calls).reached skipped).moved.point, arc.plan.rate⟩,
        ((arc.askAll calls).reached skipped).moved) := by
  rw [passedBy_concat] at h
  have hcursor : (arc.askAll calls).cursor.toNat = passedBy calls + 1 :=
    askAll_cursor_of_lt hfresh (by omega)
  have hlt : (arc.askAll calls).cursor.toNat + skipped.toNat <
      (arc.askAll calls).plan.segments.toNat := by
    rw [hcursor, askAll_plan]
    omega
  have hnth := nth_of_lt hlt
  rw [askAll_plan] at hnth
  exact hnth

/-- What holds of a fresh arc, and is kept when waypoints are passed over and the arc moves to the
one behind them, holds as long as the calls have not come to the last index. -/
theorem askAll_induction (hfresh : arc.cursor = 1) {motive : List UInt64 → ArcWalk α → Prop}
    (hnil : motive [] arc)
    (hstep : ∀ calls skipped (walk : ArcWalk α), walk.plan = arc.plan →
      walk.cursor.toNat = passedBy calls + 1 →
      passedBy (calls ++ [skipped]) < arc.plan.segments.toNat → motive calls walk →
      motive (calls ++ [skipped]) (walk.reached skipped).moved)
    (calls : List UInt64) (h : passedBy calls < arc.plan.segments.toNat) :
    motive calls (arc.askAll calls) := by
  induction calls using List.reverseRecOn with
  | nil => exact hnil
  | append_singleton calls skipped ih =>
    have hbefore : passedBy calls < arc.plan.segments.toNat := by
      rw [passedBy_concat] at h
      omega
    rw [askAll_concat, askAll_concat_of_lt hfresh h]
    exact hstep calls skipped _ (arc.askAll_plan calls) (askAll_cursor_of_lt hfresh hbefore) h
      (ih hbefore)

/-- A fresh arc of which waypoints were asked one after the other has its cursor past them. -/
theorem askAll_replicate_cursor (hfresh : arc.cursor = 1) {count : Nat}
    (h : count ≤ arc.plan.segments.toNat) :
    (arc.askAll (List.replicate count 0)).cursor.toNat = count + 1 := by
  rw [askAll_cursor hfresh, passedBy_replicate, Nat.min_eq_left h]

/-- The waypoints of a fresh arc before its last one are the points that it moves to. -/
theorem take_eq_map_askAll (hfresh : arc.cursor = 1) {count : Nat}
    (h : count < arc.plan.segments.toNat) :
    (WaypointSupply.take count arc).1 = (List.range' 1 count).map fun index =>
      ⟨(arc.askAll (List.replicate index 0)).point, arc.plan.rate⟩ := by
  have hcursor : arc.cursor.toNat = 1 := congrArg UInt64.toNat hfresh
  have hmap := WaypointSupply.take_eq_map (fun walk : ArcWalk α => walk.cursor.toNat)
    (fun walk => ∃ index, walk = arc.askAll (List.replicate index 0) ∧
      walk.cursor.toNat = index + 1)
    (fun index => ⟨(arc.askAll (List.replicate index 0)).point, arc.plan.rate⟩)
    (arc.plan.segments.toNat - 1) ?_ count arc ⟨0, rfl, hcursor⟩ (by omega)
  · rw [hcursor] at hmap
    exact hmap
  rintro walk ⟨index, rfl, hindex⟩ hle
  have hlt : (arc.askAll (List.replicate index 0)).cursor.toNat <
      (arc.askAll (List.replicate index 0)).plan.segments.toNat := by
    rw [askAll_plan]
    omega
  have hmoved : arc.askAll (List.replicate (index + 1) 0) =
      (arc.askAll (List.replicate index 0)).moved := by
    rw [List.replicate_succ', askAll_concat_zero hlt]
  have hnext := next_of_lt hlt
  have hpast : (arc.askAll (List.replicate (index + 1) 0)).cursor.toNat = index + 1 + 1 :=
    askAll_replicate_cursor hfresh (by omega)
  rw [← hmoved, askAll_plan] at hnext
  exact ⟨_, hindex ▸ hnext, ⟨index + 1, rfl, hpast⟩, hindex ▸ hpast⟩

/-- The waypoints of a fresh arc before its last one are those of the indices before the last. -/
theorem mem_take_iff (hfresh : arc.cursor = 1) {waypoint : Waypoint α} :
    waypoint ∈ (WaypointSupply.take (arc.plan.segments.toNat - 1) arc).1 ↔
      ∃ index, 1 ≤ index ∧ index < arc.plan.segments.toNat ∧
        ⟨(arc.askAll (List.replicate index 0)).point, arc.plan.rate⟩ = waypoint := by
  rcases Nat.eq_zero_or_pos arc.plan.segments.toNat with hzero | hpos
  · rw [hzero]
    exact ⟨nofun, fun ⟨_, _, hlt, _⟩ => absurd hlt (Nat.not_lt_zero _)⟩
  · rw [take_eq_map_askAll hfresh (Nat.sub_lt hpos Nat.one_pos), List.mem_map]
    simp only [List.mem_range'_1, Nat.add_sub_of_le hpos, and_assoc]

end ArcWalk

end Toolpath
