import Toolpath.Proofs.Move.Calls

/-!
# Waypoints of one rate

A line or an arc has one rate, and all the waypoints that it hands out have it.
-/

namespace Toolpath

namespace WaypointSupply

variable {S α : Type} [WaypointSupply S α]

/-- Everything that is taken from a supply has a property, if what is handed out next has it and
what is then left hands out nothing else. -/
theorem forall_mem_take (Follows : S → Prop) (Allowed : Waypoint α → Prop)
    (hnext : ∀ supply, Follows supply →
      Follows (next supply).2 ∧ ∀ waypoint, (next supply).1 = some waypoint → Allowed waypoint)
    (count : Nat) {supply : S} (hsupply : Follows supply) :
    ∀ waypoint ∈ (take count supply).1, Allowed waypoint := by
  induction count generalizing supply with
  | zero => exact List.forall_mem_nil _
  | succ count ih =>
    obtain ⟨hrest, hallowed⟩ := hnext supply hsupply
    rw [take]
    rcases hn : next supply with ⟨_ | waypoint, rest⟩
    · exact List.forall_mem_nil _
    · rw [hn] at hrest hallowed
      exact List.forall_mem_cons.mpr ⟨hallowed waypoint rfl, ih hrest⟩

end WaypointSupply

variable {α : Type} [Scalar α]

/-- What a line hands out next has the rate of the line, and so has what is left of it. -/
theorem LineWalk.next_rate (line : LineWalk α) :
    line.next.2.rate = line.rate ∧
      ∀ waypoint, line.next.1 = some waypoint → waypoint.rate = line.rate := by
  unfold next
  split
  · exact ⟨rfl, nofun⟩
  · refine ⟨rfl, fun waypoint h => ?_⟩
    cases h
    rfl

/-- What an arc hands out next has the rate of the arc. -/
theorem ArcWalk.next_rate {arc : ArcWalk α} {waypoint : Waypoint α}
    (h : arc.next.1 = some waypoint) : waypoint.rate = arc.plan.rate := by
  unfold next at h
  dsimp only at h
  split at h
  · cases h
  · split at h
    · cases h
      rfl
    · cases h
      exact congrArg ArcPlan.rate (advanceRadius_plan _ _)

/-- All waypoints of a line have its rate. -/
theorem LineWalk.rate_of_mem_toList (line : LineWalk α) :
    ∀ waypoint ∈ WaypointSupply.toList line, waypoint.rate = line.rate := by
  refine WaypointSupply.forall_mem_take (fun walk : LineWalk α => walk.rate = line.rate)
    (fun waypoint => waypoint.rate = line.rate) ?_ _ rfl
  intro walk hwalk
  rw [← hwalk]
  exact walk.next_rate

/-- All waypoints of an arc have its rate. -/
theorem ArcWalk.rate_of_mem_toList (arc : ArcWalk α) :
    ∀ waypoint ∈ WaypointSupply.toList arc, waypoint.rate = arc.plan.rate := by
  refine WaypointSupply.forall_mem_take (fun walk : ArcWalk α => walk.plan = arc.plan)
    (fun waypoint => waypoint.rate = arc.plan.rate) ?_ _ rfl
  intro walk hwalk
  rw [← hwalk]
  exact ⟨walk.next_plan, fun _ => next_rate⟩

end Toolpath
