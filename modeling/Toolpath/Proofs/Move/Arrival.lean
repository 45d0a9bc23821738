import Toolpath.Move.ArcWalk
import Toolpath.Move.LineWalk

/-!
# Moves end at their target

However a move is cut, the last waypoint that it hands out is its target. A move without
waypoints is one whose length was found to be zero.
-/

namespace Toolpath

namespace WaypointSupply

variable {S α : Type} [WaypointSupply S α]

/-- The waypoint that is handed out comes before those of the rest. -/
theorem take_succ_of_some {supply rest : S} {waypoint : Waypoint α}
    (h : next supply = (some waypoint, rest)) (count : Nat) :
    (take (count + 1) supply).1 = waypoint :: (take count rest).1 := by
  rw [take, h]

/-- Nothing is taken from a supply of nothing. -/
theorem toList_of_remaining_zero {supply : S} (h : remaining supply = 0) : toList supply = [] := by
  rw [toList, h]
  rfl

/-- A supply that hands out a waypoint at every cursor up to a last one, and its target there,
ends with the target. The cursor of a state is its place among the waypoints. -/
theorem getLast?_take (cursor : S → Nat) (Follows : S → Prop) {segments : Nat}
    {target : Waypoint α}
    (hnext : ∀ supply, Follows supply → cursor supply < segments →
      ∃ waypoint rest, next supply = (some waypoint, rest) ∧ Follows rest ∧
        cursor rest = cursor supply + 1)
    (hlast : ∀ supply, Follows supply → cursor supply = segments →
      ∃ rest, next supply = (some target, rest))
    (ahead : Nat) (supply : S) (hsupply : Follows supply)
    (hcursor : cursor supply + ahead = segments) :
    (take (ahead + 1) supply).1.getLast? = some target := by
  induction ahead generalizing supply with
  | zero =>
    obtain ⟨rest, hrest⟩ := hlast supply hsupply hcursor
    rw [take_succ_of_some hrest]
    rfl
  | succ ahead ih =>
    obtain ⟨waypoint, rest, hrest, hfollows, hstep⟩ := hnext supply hsupply (by omega)
    have hothers := ih rest hfollows (by omega)
    rw [take_succ_of_some hrest, List.getLast?_cons, hothers, Option.getD_some]

/-- A supply that hands out the waypoint of its cursor and moves the cursor on by one, up to a last
index, holds the waypoints of these indices in order. -/
theorem take_eq_map (cursor : S → Nat) (Follows : S → Prop) (waypointAt : Nat → Waypoint α)
    (segments : Nat)
    (hnext : ∀ supply, Follows supply → cursor supply ≤ segments →
      ∃ rest, next supply = (some (waypointAt (cursor supply)), rest) ∧ Follows rest ∧
        cursor rest = cursor supply + 1)
    (count : Nat) (supply : S) (hsupply : Follows supply)
    (hcount : cursor supply + count ≤ segments + 1) :
    (take count supply).1 = (List.range' (cursor supply) count).map waypointAt := by
  induction count generalizing supply with
  | zero => rfl
  | succ count ih =>
    obtain ⟨rest, hrest, hfollows, hcursor⟩ := hnext supply hsupply (by omega)
    have hothers := ih rest hfollows (by omega)
    rw [take_succ_of_some hrest, hothers, hcursor, List.range'_succ, List.map_cons]

/-- A supply that hands out a waypoint at every cursor up to a last one, and moves the cursor on by
one, holds as many waypoints as are asked for before it ends. -/
theorem length_take (cursor : S → Nat) (Follows : S → Prop) (segments : Nat)
    (hnext : ∀ supply, Follows supply → cursor supply ≤ segments →
      ∃ waypoint rest, next supply = (some waypoint, rest) ∧ Follows rest ∧
        cursor rest = cursor supply + 1)
    (count : Nat) (supply : S) (hsupply : Follows supply)
    (hcount : cursor supply + count ≤ segments + 1) : (take count supply).1.length = count := by
  induction count generalizing supply with
  | zero => rfl
  | succ count ih =>
    obtain ⟨waypoint, rest, hrest, hfollows, hcursor⟩ := hnext supply hsupply (by omega)
    rw [take_succ_of_some hrest, List.length_cons, ih rest hfollows (by omega)]

end WaypointSupply

variable {α : Type} [Scalar α]

/-- A cursor that has not passed the last index can step on without wrapping. -/
theorem cursor_succ {cursor : UInt64} {segments : UInt32} (h : cursor.toNat ≤ segments.toNat) :
    (cursor + 1).toNat = cursor.toNat + 1 := by
  have hsegments := segments.toNat_lt
  rw [UInt64.toNat_add, UInt64.toNat_one, Nat.mod_eq_of_lt]
  omega

/-- A word can hold every index up to the last one. -/
theorem index_toNat {index : Nat} {segments : UInt32} (h : index ≤ segments.toNat) :
    (UInt64.ofNat index).toNat = index := by
  have hsegments := segments.toNat_lt
  refine UInt64.toNat_ofNat_of_lt ?_
  change index < 2 ^ 64
  omega

/-- The word of a cursor is beyond the last index exactly when its number is. -/
theorem lt_cursor_iff {cursor : UInt64} {segments : UInt32} :
    segments.toUInt64 < cursor ↔ segments.toNat < cursor.toNat := by
  rw [UInt64.lt_iff_toNat_lt, UInt32.toNat_toUInt64]

/-- A cursor that has not passed the last index is not beyond it. -/
theorem not_lt_cursor {cursor : UInt64} {segments : UInt32} (h : cursor.toNat ≤ segments.toNat) :
    ¬ segments.toUInt64 < cursor := by
  rw [lt_cursor_iff]
  exact Nat.not_lt_of_le h

namespace LineWalk

/-- Up to its last waypoint a line hands out the waypoint at its cursor. -/
theorem next_of_le {line : LineWalk α} (h : line.cursor.toNat ≤ line.segments.toNat) :
    line.next = (some (line.waypointAt line.cursor), { line with cursor := line.cursor + 1 }) := by
  rw [next, if_neg (not_lt_cursor h)]

/-- A line that has waypoints left ends at its target. -/
theorem getLast?_toList {line : LineWalk α} (h : line.cursor.toNat ≤ line.segments.toNat) :
    (WaypointSupply.toList line).getLast? = some ⟨line.target, line.rate⟩ := by
  have hremaining : WaypointSupply.remaining line =
      line.segments.toNat - line.cursor.toNat + 1 := by
    change line.segments.toNat + 1 - line.cursor.toNat = _
    omega
  rw [WaypointSupply.toList, hremaining]
  refine WaypointSupply.getLast?_take (fun walk : LineWalk α => walk.cursor.toNat)
    (fun walk => walk.segments = line.segments ∧ walk.target = line.target ∧
      walk.rate = line.rate) ?_ ?_ _ line ⟨rfl, rfl, rfl⟩ (Nat.add_sub_of_le h)
  · rintro walk ⟨hsegments, htarget, hrate⟩ hlt
    rw [← hsegments] at hlt
    exact ⟨_, _, next_of_le (Nat.le_of_lt hlt), ⟨hsegments, htarget, hrate⟩,
      cursor_succ (Nat.le_of_lt hlt)⟩
  · rintro walk ⟨hsegments, htarget, hrate⟩ hlast
    rw [← hsegments] at hlast
    have hcursor : walk.cursor = walk.segments.toUInt64 := by
      rw [← UInt64.toNat_inj, UInt32.toNat_toUInt64, hlast]
    have hhanded := next_of_le (Nat.le_of_eq hlast)
    rw [hcursor, waypointAt_last, htarget, hrate] at hhanded
    exact ⟨_, hhanded⟩

/-- A line past its last waypoint hands out nothing and stays as it is. -/
theorem next_of_gt {line : LineWalk α} (h : line.segments.toNat < line.cursor.toNat) :
    line.next = (none, line) := by
  rw [next, if_pos (lt_cursor_iff.mpr h)]

/-- A line holds the waypoints of the indices from its cursor to the last one. -/
theorem toList_eq_map (line : LineWalk α) :
    WaypointSupply.toList line =
      (List.range' line.cursor.toNat line.remaining).map
        fun index => line.waypointAt (.ofNat index) := by
  rcases Nat.lt_or_ge line.segments.toNat line.cursor.toNat with hpast | hle
  · have hnone : line.remaining = 0 := by
      unfold remaining
      omega
    rw [WaypointSupply.toList_of_remaining_zero hnone, hnone, List.range'_zero, List.map_nil]
  · have hcount : line.cursor.toNat + line.remaining ≤ line.segments.toNat + 1 := by
      unfold remaining
      omega
    refine WaypointSupply.take_eq_map (fun walk : LineWalk α => walk.cursor.toNat)
      (fun walk => ∃ cursor, walk = { line with cursor }) _ line.segments.toNat ?_ _ line
      ⟨line.cursor, rfl⟩ hcount
    rintro walk ⟨cursor, rfl⟩ hwalk
    refine ⟨{ line with cursor := cursor + 1 }, ?_, ⟨cursor + 1, rfl⟩, cursor_succ hwalk⟩
    rw [UInt64.ofNat_toNat]
    exact next_of_le hwalk

/-- A line holds as many waypoints as are left. -/
theorem length_toList (line : LineWalk α) :
    (WaypointSupply.toList line).length = line.remaining := by
  rw [toList_eq_map, List.length_map, List.length_range']

/-- The waypoints of a line that was cut are those of its indices from one to the last. -/
theorem cut_toList (start target : PerAxis α) (rate maxLength : α) :
    let line := cut start target rate maxLength
    WaypointSupply.toList line =
      (List.range' 1 line.segments.toNat).map fun index => line.waypointAt (.ofNat index) := by
  intro line
  have hremaining : line.remaining = line.segments.toNat := Nat.add_sub_cancel _ 1
  rw [toList_eq_map, hremaining]
  rfl

/-- The waypoints of a line that was cut end at its target, unless its length is zero; then there
are none. -/
theorem cut_arrives (start target : PerAxis α) (rate maxLength : α) :
    (((start.vectorTo target).norm == (0.0 : α)) = true ∧
      WaypointSupply.toList (cut start target rate maxLength) = []) ∨
    (¬ ((start.vectorTo target).norm == (0.0 : α)) = true ∧
      (WaypointSupply.toList (cut start target rate maxLength)).getLast? =
        some ⟨target, rate⟩) := by
  have hiff := cut_segments_eq_zero_iff start target rate maxLength
  by_cases h : ((start.vectorTo target).norm == (0.0 : α)) = true
  · refine .inl ⟨h, WaypointSupply.toList_of_remaining_zero ?_⟩
    change (cut start target rate maxLength).segments.toNat + 1 - 1 = 0
    rw [hiff.mpr h]
    rfl
  · refine .inr ⟨h, getLast?_toList ?_⟩
    have hne : (cut start target rate maxLength).segments ≠ 0 := fun hz => h (hiff.mp hz)
    exact Nat.pos_of_ne_zero fun hz => hne (UInt32.toNat_inj.mp hz)

end LineWalk

namespace ArcWalk

/-- Up to its last waypoint an arc hands out a waypoint and moves its cursor on by one. -/
theorem next_of_le {arc : ArcWalk α} (h : arc.cursor.toNat ≤ arc.plan.segments.toNat) :
    ∃ waypoint, (arc.next).1 = some waypoint ∧ (arc.next).2.cursor = arc.cursor + 1 ∧
      (arc.cursor.toNat = arc.plan.segments.toNat →
        waypoint = ⟨arc.plan.target, arc.plan.rate⟩) := by
  unfold next
  rw [if_neg (not_lt_cursor h)]
  by_cases hlast : arc.cursor = arc.plan.segments.toUInt64
  · rw [if_pos hlast]
    exact ⟨_, rfl, rfl, fun _ => rfl⟩
  · rw [if_neg hlast]
    refine ⟨_, rfl, ?_, fun hnat => absurd ?_ hlast⟩
    · simp only [advancePoint, advanceRadius]
      split <;> rfl
    · rw [← UInt64.toNat_inj, UInt32.toNat_toUInt64, hnat]

/-- At its last waypoint an arc hands out its target and moves nothing but its cursor. -/
theorem next_of_eq {arc : ArcWalk α} (h : arc.cursor.toNat = arc.plan.segments.toNat) :
    arc.next =
      (some ⟨arc.plan.target, arc.plan.rate⟩, { arc with cursor := arc.cursor + 1 }) := by
  have hcursor : arc.cursor = arc.plan.segments.toUInt64 := by
    rw [← UInt64.toNat_inj, UInt32.toNat_toUInt64, h]
  rw [next, if_neg (not_lt_cursor (Nat.le_of_eq h)), if_pos hcursor]

/-- Past its last waypoint an arc hands out nothing and stays as it is. -/
theorem next_of_gt {arc : ArcWalk α} (h : arc.plan.segments.toNat < arc.cursor.toNat) :
    arc.next = (none, arc) := by
  rw [next, if_pos (lt_cursor_iff.mpr h)]

/-- An arc that has waypoints left ends at its target. -/
theorem getLast?_toList {arc : ArcWalk α} (h : arc.cursor.toNat ≤ arc.plan.segments.toNat) :
    (WaypointSupply.toList arc).getLast? = some ⟨arc.plan.target, arc.plan.rate⟩ := by
  have hremaining : WaypointSupply.remaining arc =
      arc.plan.segments.toNat - arc.cursor.toNat + 1 := by
    change arc.plan.segments.toNat + 1 - arc.cursor.toNat = _
    omega
  rw [WaypointSupply.toList, hremaining]
  refine WaypointSupply.getLast?_take (fun walk : ArcWalk α => walk.cursor.toNat)
    (fun walk => walk.plan = arc.plan) ?_ ?_ _ arc rfl (Nat.add_sub_of_le h)
  · rintro walk hplan hlt
    rw [← hplan] at hlt
    obtain ⟨waypoint, hwaypoint, hcursor, -⟩ := next_of_le (Nat.le_of_lt hlt)
    refine ⟨waypoint, walk.next.2, Prod.ext hwaypoint rfl, (next_plan walk).trans hplan, ?_⟩
    rw [hcursor, cursor_succ (Nat.le_of_lt hlt)]
  · rintro walk hplan hlast
    rw [← hplan] at hlast ⊢
    obtain ⟨waypoint, hwaypoint, -, hend⟩ := next_of_le (Nat.le_of_eq hlast)
    exact ⟨walk.next.2, Prod.ext (hwaypoint.trans (congrArg some (hend hlast))) rfl⟩

/-- An arc that has not ended holds as many waypoints as are left. -/
theorem length_toList {arc : ArcWalk α} (h : arc.cursor.toNat ≤ arc.plan.segments.toNat + 1) :
    (WaypointSupply.toList arc).length = arc.remaining := by
  refine WaypointSupply.length_take (fun walk : ArcWalk α => walk.cursor.toNat)
    (fun walk => walk.plan = arc.plan) arc.plan.segments.toNat ?_ _ arc rfl
    (Nat.le_of_eq (Nat.add_sub_of_le h))
  intro walk hplan hle
  rw [← hplan] at hle
  obtain ⟨waypoint, hwaypoint, hcursor, -⟩ := next_of_le hle
  refine ⟨waypoint, walk.next.2, Prod.ext hwaypoint rfl, (next_plan walk).trans hplan, ?_⟩
  rw [hcursor, cursor_succ hle]

/-- The waypoints of an arc that was cut end at its target, unless its length is zero; then there
are none. -/
theorem cut_arrives (arc : Arc α) (rate maxLength : α) (interval : UInt8) :
    ((arc.length == (0.0 : α)) = true ∧
      WaypointSupply.toList (cut arc rate maxLength interval) = []) ∨
    (¬ (arc.length == (0.0 : α)) = true ∧
      (WaypointSupply.toList (cut arc rate maxLength interval)).getLast? =
        some ⟨arc.target, rate⟩) := by
  have hsegments : (cut arc rate maxLength interval).plan.segments =
      if arc.length == (0.0 : α) then 0
      else atLeastOne (Scalar.floorCount (arc.length / maxLength)) := rfl
  by_cases h : (arc.length == (0.0 : α)) = true
  · refine .inl ⟨h, WaypointSupply.toList_of_remaining_zero ?_⟩
    change (cut arc rate maxLength interval).plan.segments.toNat + 1 - 1 = 0
    rw [hsegments, if_pos h]
    rfl
  · refine .inr ⟨h, getLast?_toList ?_⟩
    rw [hsegments, if_neg h]
    exact atLeastOne_pos _

end ArcWalk

end Toolpath
