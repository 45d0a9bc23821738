import Toolpath.Machine.Dispatcher

/-!
# Legs between the waypoints that count

A waypoint that is too near to where the tool was last sent is passed over; the others are
joined by legs. Which legs there are is a matter of geometry alone: no planner has a say in it.
Every leg starts where the one before it ends, and none is shorter than the least move.
-/

namespace Toolpath

variable {α : Type}

/-- A straight way to a waypoint from where the tool was last sent. -/
structure Leg (α : Type) where
  /-- Where the tool was last sent. -/
  start : PerAxis α
  /-- Where it is sent now. -/
  waypoint : Waypoint α

namespace Leg

/-- Where legs lead that begin at a point: to the end of the last one. -/
def finish (start : PerAxis α) (legs : List (Leg α)) : PerAxis α :=
  legs.foldl (fun _ leg => leg.waypoint.point) start

/-- Each leg starts where the one before it ends, the first one at a given point. -/
def Linked : PerAxis α → List (Leg α) → Prop
  | _, [] => True
  | start, leg :: rest => leg.start = start ∧ Linked leg.waypoint.point rest

/-- Legs end at the waypoint of the last one, if there is one. -/
theorem finish_eq_getLast? (start : PerAxis α) (legs : List (Leg α)) :
    finish start legs = (legs.getLast?.map fun leg => leg.waypoint.point).getD start := by
  induction legs generalizing start with
  | nil => rfl
  | cons leg rest ih =>
    have hrest := ih leg.waypoint.point
    rw [List.getLast?_cons, Option.map_some, Option.getD_some]
    exact hrest.trans (Option.getD_map (fun last : Leg α => last.waypoint.point) leg _)

/-- Linked legs in two parts are linked at the joint. -/
theorem linked_append (start : PerAxis α) (first second : List (Leg α)) :
    Linked start (first ++ second) ↔ Linked start first ∧ Linked (finish start first) second := by
  induction first generalizing start with
  | nil => simp only [List.nil_append, Linked, finish, List.foldl_nil, true_and]
  | cons leg first ih =>
    simp only [List.cons_append, Linked, ih, finish, List.foldl_cons, and_assoc]

/-- The first ones of linked legs are linked. -/
theorem Linked.take {start : PerAxis α} {legs : List (Leg α)} (h : Linked start legs)
    (count : Nat) : Linked start (legs.take count) := by
  rw [← List.take_append_drop count legs, linked_append] at h
  exact h.1

variable [Scalar α]

/-- Vector from the start of the leg to its end. -/
def displacement (leg : Leg α) : PerAxis α := leg.start.vectorTo leg.waypoint.point

/-- Length of the leg. -/
def length (leg : Leg α) : α := leg.displacement.norm

/-- The block that takes the tool along the leg. Its motor steps come from the end of the leg
alone. -/
def block (kinematics : Kinematics α) (leg : Leg α) : Block α where
  steps := kinematics.steps leg.waypoint.point
  rate := leg.waypoint.rate * secondsPerMinute
  length := leg.length
  displacement := leg.displacement

/-- Legs from a point through waypoints: the first waypoint that is far enough off ends the
first leg, and the other legs go on from there. -/
def through (start : PerAxis α) : List (Waypoint α) → List (Leg α)
  | [] => []
  | waypoint :: rest =>
    if (Leg.mk start waypoint).length < leastMove then through start rest
    else ⟨start, waypoint⟩ :: through waypoint.point rest

/-- A waypoint that is too near is passed over. -/
theorem through_of_near {start : PerAxis α} {waypoint : Waypoint α}
    (h : (Leg.mk start waypoint).length < leastMove) (rest : List (Waypoint α)) :
    through start (waypoint :: rest) = through start rest := by
  rw [through, if_pos h]

/-- A waypoint that is far enough off ends a leg. -/
theorem through_of_far {start : PerAxis α} {waypoint : Waypoint α}
    (h : ¬ (Leg.mk start waypoint).length < leastMove) (rest : List (Waypoint α)) :
    through start (waypoint :: rest) = ⟨start, waypoint⟩ :: through waypoint.point rest := by
  rw [through, if_neg h]

/-- Legs through waypoints are linked. -/
theorem through_linked (start : PerAxis α) (waypoints : List (Waypoint α)) :
    Linked start (through start waypoints) := by
  induction waypoints generalizing start with
  | nil => trivial
  | cons waypoint rest ih =>
    by_cases h : (Leg.mk start waypoint).length < leastMove
    · rw [through_of_near h]
      exact ih start
    · rw [through_of_far h]
      exact ⟨rfl, ih waypoint.point⟩

/-- No leg through waypoints is too short. -/
theorem through_far (start : PerAxis α) (waypoints : List (Waypoint α)) :
    ∀ leg ∈ through start waypoints, ¬ leg.length < leastMove := by
  induction waypoints generalizing start with
  | nil => exact nofun
  | cons waypoint rest ih =>
    by_cases h : (Leg.mk start waypoint).length < leastMove
    · rw [through_of_near h]
      exact ih start
    · rw [through_of_far h]
      exact List.forall_mem_cons.mpr ⟨h, ih waypoint.point⟩

/-- Legs lead near to the last waypoint, if every point is near to itself. -/
theorem finish_through_near (hself : ∀ point : PerAxis α, (point.vectorTo point).norm < leastMove)
    {waypoints : List (Waypoint α)} {last : Waypoint α} (h : waypoints.getLast? = some last)
    (start : PerAxis α) :
    ((finish start (through start waypoints)).vectorTo last.point).norm < leastMove := by
  induction waypoints generalizing start with
  | nil => cases h
  | cons waypoint rest ih =>
    by_cases hnear : (Leg.mk start waypoint).length < leastMove
    · rw [through_of_near hnear]
      cases rest with
      | nil =>
        cases h
        exact hnear
      | cons next rest => exact ih (List.getLast?_cons_cons.symm.trans h) start
    · rw [through_of_far hnear]
      cases rest with
      | nil =>
        cases h
        exact hself waypoint.point
      | cons next rest => exact ih (List.getLast?_cons_cons.symm.trans h) waypoint.point

/-- Legs end at some of the waypoints, in their order. -/
theorem through_sublist (start : PerAxis α) (waypoints : List (Waypoint α)) :
    ((through start waypoints).map Leg.waypoint).Sublist waypoints := by
  induction waypoints generalizing start with
  | nil => exact .slnil
  | cons waypoint rest ih =>
    by_cases h : (Leg.mk start waypoint).length < leastMove
    · rw [through_of_near h]
      exact (ih start).cons waypoint
    · rw [through_of_far h]
      exact (ih waypoint.point).cons_cons waypoint

end Leg

end Toolpath
