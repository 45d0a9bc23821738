import Toolpath.Proofs.Move.Asking
import Toolpath.Proofs.Move.Calls

/-!
# In the plane of an arc and across it

An arc turns in its plane while it travels across it. The two have nothing to do with each other
once the number of segments is settled: arcs that are alike in their plane hand out waypoints that
are alike there, wherever they lead across it, and arcs that are alike across their plane hand out
waypoints that are alike across it, wherever they turn.
-/

namespace Toolpath

open WaypointSupply (LooksAlike)

/-- Height of a point over a plane. -/
def Plane.height {β : Type} (plane : Plane) (point : PerAxis β) : β :=
  point.get plane.perpendicular

variable {α : Type} [Scalar α]

namespace Arc

/-- Two arcs of a plane start, end and turn alike in it. -/
structure AlikeIn (plane : Plane) (one other : Arc α) : Prop where
  /-- The first one has the plane. -/
  plane_one : one.plane = plane
  /-- So has the second one. -/
  plane_other : other.plane = plane
  /-- In it they start at the same place. -/
  start : plane.planar one.start = plane.planar other.start
  /-- They end at the same place. -/
  target : plane.planar one.target = plane.planar other.target
  /-- Their centers have the same offset. -/
  offset : plane.planar one.offset = plane.planar other.offset
  /-- They turn in the same sense. -/
  turn : one.turn = other.turn

/-- Two arcs of a plane start and end alike across it. -/
structure AlikeAcross (plane : Plane) (one other : Arc α) : Prop where
  /-- The first one has the plane. -/
  plane_one : one.plane = plane
  /-- So has the second one. -/
  plane_other : other.plane = plane
  /-- Across it they start at the same height. -/
  start : plane.height one.start = plane.height other.start
  /-- They end at the same height. -/
  target : plane.height one.target = plane.height other.target

variable {plane : Plane} {one other : Arc α}

/-- Arcs that turn in the same sense from the same radius vector to the same one sweep the same
angle. -/
theorem sweep_congr (hturn : one.turn = other.turn)
    (hstart : one.startRadius = other.startRadius)
    (htarget : one.targetRadius = other.targetRadius) : one.sweep = other.sweep := by
  have hangle : one.counterClockwiseAngle = other.counterClockwiseAngle := by
    rw [counterClockwiseAngle, counterClockwiseAngle, hstart, htarget]
  rw [sweep, sweep, hturn, hangle]

/-- Arcs that are alike in their plane have the same center there. -/
theorem AlikeIn.center (h : one.AlikeIn plane other) : one.center = other.center := by
  rw [Arc.center, Arc.center, h.plane_one, h.plane_other, h.start, h.offset]

/-- They start at the same radius vector. -/
theorem AlikeIn.startRadius (h : one.AlikeIn plane other) :
    one.startRadius = other.startRadius := by
  rw [Arc.startRadius, Arc.startRadius, h.plane_one, h.plane_other, h.offset]

/-- They sweep the same angle. -/
theorem AlikeIn.sweep (h : one.AlikeIn plane other) : one.sweep = other.sweep := by
  refine sweep_congr h.turn h.startRadius ?_
  rw [targetRadius, targetRadius, h.center, h.plane_one, h.plane_other, h.target]

/-- Arcs that are alike across their plane rise alike. -/
theorem AlikeAcross.rise (h : one.AlikeAcross plane other) : one.rise = other.rise := by
  have hstart := h.start
  have htarget := h.target
  rw [Plane.height, Plane.height] at hstart htarget
  rw [Arc.rise, Arc.rise, h.plane_one, h.plane_other, hstart, htarget]

end Arc

namespace ArcPlan

/-- What stays fixed of two arcs is alike as far as their plane goes. -/
structure AlikeIn (plane : Plane) (one other : ArcPlan α) : Prop where
  /-- The first one has the plane. -/
  plane_one : one.plane = plane
  /-- So has the second one. -/
  plane_other : other.plane = plane
  /-- They have as many segments. -/
  segments : one.segments = other.segments
  /-- In the plane they end at the same place. -/
  target : plane.planar one.target = plane.planar other.target
  /-- They have the same center. -/
  center : one.center = other.center
  /-- They start at the same radius vector. -/
  startRadius : one.startRadius = other.startRadius
  /-- Their segments turn by the same angle. -/
  stepAngle : one.stepAngle = other.stepAngle
  /-- Radius vectors are made exact as often. -/
  correctionInterval : one.correctionInterval = other.correctionInterval

/-- What stays fixed of two arcs is alike as far as the way across their plane goes. -/
structure AlikeAcross (plane : Plane) (one other : ArcPlan α) : Prop where
  /-- The first one has the plane. -/
  plane_one : one.plane = plane
  /-- So has the second one. -/
  plane_other : other.plane = plane
  /-- They have as many segments. -/
  segments : one.segments = other.segments
  /-- Across the plane they end at the same height. -/
  target : plane.height one.target = plane.height other.target
  /-- Their segments rise alike. -/
  stepRise : one.stepRise = other.stepRise

variable {plane : Plane} {one other : ArcPlan α}

/-- Plans that are alike in the plane turn a radius vector alike. -/
theorem AlikeIn.smallTurn (h : one.AlikeIn plane other) (radius : Planar α) :
    one.smallTurn radius = other.smallTurn radius := by
  rw [ArcPlan.smallTurn, ArcPlan.smallTurn, smallCosine, smallCosine, smallSine, smallSine,
    h.stepAngle]

/-- They have the same exact radius vectors. -/
theorem AlikeIn.exactRadius (h : one.AlikeIn plane other) (index : UInt64) :
    one.exactRadius index = other.exactRadius index := by
  rw [ArcPlan.exactRadius, ArcPlan.exactRadius, h.stepAngle, h.startRadius]

variable {first second : Arc α} {rate maxLength rate' maxLength' : α} {interval : UInt8}

/-- Arcs whose paths are as long are cut into as many segments. -/
theorem cut_segments_congr {interval' : UInt8} (h : first.length = second.length) :
    (cut first rate maxLength interval).segments =
      (cut second rate' maxLength interval').segments := by
  have hcount (arc : Arc α) (rate : α) (interval : UInt8) :
      (cut arc rate maxLength interval).segments =
        if arc.length == 0.0 then 0 else atLeastOne (Scalar.floorCount (arc.length / maxLength)) :=
    rfl
  rw [hcount, hcount, h]

/-- Arcs that are alike in their plane and cut into as many segments have plans that are alike in
it. -/
theorem cut_alikeIn (h : first.AlikeIn plane second)
    (hsegments : (cut first rate maxLength interval).segments =
      (cut second rate' maxLength' interval).segments) :
    (cut first rate maxLength interval).AlikeIn plane
      (cut second rate' maxLength' interval) where
  plane_one := h.plane_one
  plane_other := h.plane_other
  segments := hsegments
  target := h.target
  center := h.center
  startRadius := h.startRadius
  stepAngle := by rw [cut_stepAngle, cut_stepAngle, hsegments, h.sweep]
  correctionInterval := rfl

/-- Arcs that are alike across their plane and cut into as many segments have plans that are alike
across it. -/
theorem cut_alikeAcross {interval' : UInt8} (h : first.AlikeAcross plane second)
    (hsegments : (cut first rate maxLength interval).segments =
      (cut second rate' maxLength' interval').segments) :
    (cut first rate maxLength interval).AlikeAcross plane
      (cut second rate' maxLength' interval') where
  plane_one := h.plane_one
  plane_other := h.plane_other
  segments := hsegments
  target := h.target
  stepRise := by rw [cut_stepRise, cut_stepRise, hsegments, h.rise]

end ArcPlan

namespace ArcWalk

/-- Two arcs in the course of handing out their waypoints are alike as far as their plane goes. -/
structure AlikeIn (plane : Plane) (one other : ArcWalk α) : Prop where
  /-- What stays fixed is alike. -/
  plan : one.plan.AlikeIn plane other.plan
  /-- They have come to the same index. -/
  cursor : one.cursor = other.cursor
  /-- They have the same radius vector. -/
  radius : one.radius = other.radius
  /-- It was exact as many turns ago. -/
  turns : one.turns = other.turns

/-- Two arcs in the course of handing out their waypoints are alike as far as the way across their
plane goes. -/
structure AlikeAcross (plane : Plane) (one other : ArcWalk α) : Prop where
  /-- What stays fixed is alike. -/
  plan : one.plan.AlikeAcross plane other.plan
  /-- They have come to the same index. -/
  cursor : one.cursor = other.cursor
  /-- They have come to the same height. -/
  height : plane.height one.point = plane.height other.point

/-- Arcs look alike to every call if they do to the next one, and stay alike when waypoints are
passed over. -/
theorem looksAlike_of_next {γ : Type} {Alike : ArcWalk α → ArcWalk α → Prop}
    {view : Waypoint α → γ}
    (hleft : ∀ one other, Alike one other → one.remaining = other.remaining)
    (hreached : ∀ one other skipped, Alike one other →
      Alike (one.reached skipped) (other.reached skipped))
    (hnext : ∀ one other, Alike one other →
      one.next.1.map view = other.next.1.map view ∧ Alike one.next.2 other.next.2) :
    LooksAlike Alike view := by
  refine ⟨fun one other call h => ?_, fun one other call h => ?_, hleft⟩
  · cases call with
    | next => exact (hnext one other h).1
    | nth skipped => exact (hnext _ _ (hreached one other skipped h)).1
  · cases call with
    | next => exact (hnext one other h).2
    | nth skipped => exact (hnext _ _ (hreached one other skipped h)).2

variable {plane : Plane} {one other : ArcWalk α}

omit [Scalar α] in
/-- Where two arcs have come to the same index, as many waypoints are left. -/
theorem remaining_congr (hsegments : one.plan.segments = other.plan.segments)
    (hcursor : one.cursor = other.cursor) : one.remaining = other.remaining := by
  rw [remaining, remaining, hsegments, hcursor]

/-- Passing over waypoints brings them to the same index. -/
theorem reached_cursor_congr (hsegments : one.plan.segments = other.plan.segments)
    (hcursor : one.cursor = other.cursor) (skipped : UInt64) :
    (one.reached skipped).cursor = (other.reached skipped).cursor := by
  have hleft : one.left = other.left := by rw [left, left, hsegments, hcursor]
  unfold reached
  by_cases h : skipped = 0
  · rw [if_pos h, if_pos h, hcursor]
  · rw [if_neg h, if_neg h]
    simp only [skip, hleft, hcursor]

/-- Two arcs that have come to the same index hand out waypoints that look alike, and are alike
afterwards, if this is so of the points that they move to and of their targets. -/
theorem next_congr {γ : Type} {Alike : ArcWalk α → ArcWalk α → Prop} {view : PerAxis α → γ}
    (hsegments : one.plan.segments = other.plan.segments) (hcursor : one.cursor = other.cursor)
    (hmoved : view one.moved.point = view other.moved.point ∧ Alike one.moved other.moved)
    (hlast : view one.plan.target = view other.plan.target ∧
      Alike { one with cursor := one.cursor + 1 } { other with cursor := other.cursor + 1 })
    (hended : Alike one other) :
    (one.next.1.map fun waypoint => view waypoint.point) =
        (other.next.1.map fun waypoint => view waypoint.point) ∧
      Alike one.next.2 other.next.2 := by
  have hcount := congrArg UInt32.toNat hsegments
  have hindex := congrArg UInt64.toNat hcursor
  rcases Nat.lt_trichotomy one.cursor.toNat one.plan.segments.toNat with hlt | heq | hgt
  · rw [next_of_lt hlt, next_of_lt (hcount ▸ hindex ▸ hlt), Option.map_some, Option.map_some,
      hmoved.1]
    exact ⟨rfl, hmoved.2⟩
  · rw [next_of_eq heq, next_of_eq (hcount ▸ hindex ▸ heq), Option.map_some, Option.map_some,
      hlast.1]
    exact ⟨rfl, hlast.2⟩
  · rw [next_of_gt hgt, next_of_gt (hcount ▸ hindex ▸ hgt)]
    exact ⟨rfl, hended⟩

namespace AlikeIn

/-- Arcs that are alike in their plane move alike in it. -/
theorem moved (h : one.AlikeIn plane other) : one.moved.AlikeIn plane other.moved := by
  have hturns : one.turns < one.plan.correctionInterval ↔
      other.turns < other.plan.correctionInterval := by
    rw [h.turns, h.plan.correctionInterval]
  refine ⟨?_, ?_, ?_, ?_⟩
  · rw [moved_plan, moved_plan]
    exact h.plan
  · rw [moved_cursor, moved_cursor, h.cursor]
  · by_cases hlt : one.turns < one.plan.correctionInterval
    · rw [(moved_of_turns_lt hlt).1, (moved_of_turns_lt (hturns.mp hlt)).1, h.plan.smallTurn,
        h.radius]
    · rw [(moved_of_not_turns_lt hlt).1,
        (moved_of_not_turns_lt (fun hother => hlt (hturns.mpr hother))).1, h.plan.exactRadius,
        h.cursor]
  · by_cases hlt : one.turns < one.plan.correctionInterval
    · rw [(moved_of_turns_lt hlt).2, (moved_of_turns_lt (hturns.mp hlt)).2, h.turns]
    · rw [(moved_of_not_turns_lt hlt).2,
        (moved_of_not_turns_lt (fun hother => hlt (hturns.mpr hother))).2]

/-- In the plane they move to the same place. -/
theorem planar_moved (h : one.AlikeIn plane other) :
    plane.planar one.moved.point = plane.planar other.moved.point := by
  have hone := ArcWalk.planar_moved one
  have hother := ArcWalk.planar_moved other
  rw [h.plan.plane_one] at hone
  rw [h.plan.plane_other] at hother
  rw [hone, hother, h.plan.center, h.moved.radius]

/-- Passing over waypoints keeps them alike in the plane. -/
theorem reached (h : one.AlikeIn plane other) (skipped : UInt64) :
    (one.reached skipped).AlikeIn plane (other.reached skipped) := by
  refine ⟨?_, reached_cursor_congr h.plan.segments h.cursor skipped, ?_, ?_⟩
  · rw [reached_plan, reached_plan]
    exact h.plan
  · unfold ArcWalk.reached
    split
    · exact h.radius
    · exact h.radius
  · unfold ArcWalk.reached
    split
    · exact h.turns
    · exact h.plan.correctionInterval

/-- Arcs that are alike in a plane look alike in it, whatever is asked. -/
theorem looksAlike (plane : Plane) :
    LooksAlike (AlikeIn plane : ArcWalk α → ArcWalk α → Prop)
      fun waypoint => plane.planar waypoint.point :=
  looksAlike_of_next (fun _ _ h => remaining_congr h.plan.segments h.cursor)
    (fun _ _ skipped h => h.reached skipped)
    (fun _ _ h => next_congr h.plan.segments h.cursor ⟨h.planar_moved, h.moved⟩
      ⟨h.plan.target, h.plan, congrArg (· + 1) h.cursor, h.radius, h.turns⟩ h)

end AlikeIn

namespace AlikeAcross

/-- Arcs that are alike across their plane move to the same height. -/
theorem height_moved (h : one.AlikeAcross plane other) :
    plane.height one.moved.point = plane.height other.moved.point := by
  have hone := one.perpendicular_moved
  have hother := other.perpendicular_moved
  rw [h.plan.plane_one] at hone
  rw [h.plan.plane_other] at hother
  have hheight := h.height
  rw [Plane.height, Plane.height] at hheight ⊢
  rw [hone, hother, h.plan.stepRise, hheight]

/-- They stay alike when they move. -/
theorem moved (h : one.AlikeAcross plane other) : one.moved.AlikeAcross plane other.moved := by
  refine ⟨?_, ?_, h.height_moved⟩
  · rw [moved_plan, moved_plan]
    exact h.plan
  · rw [moved_cursor, moved_cursor, h.cursor]

/-- Passing over waypoints keeps them alike across the plane. -/
theorem reached (h : one.AlikeAcross plane other) (skipped : UInt64) :
    (one.reached skipped).AlikeAcross plane (other.reached skipped) := by
  refine ⟨?_, reached_cursor_congr h.plan.segments h.cursor skipped, ?_⟩
  · rw [reached_plan, reached_plan]
    exact h.plan
  · have hleft : one.left = other.left := by rw [left, left, h.plan.segments, h.cursor]
    unfold ArcWalk.reached
    by_cases hskip : skipped = 0
    · rw [if_pos hskip, if_pos hskip]
      exact h.height
    · rw [if_neg hskip, if_neg hskip]
      have hheight := h.height
      rw [Plane.height, Plane.height] at hheight ⊢
      simp only [skip, hleft, h.plan.plane_one, h.plan.plane_other, h.plan.stepRise, hheight,
        PerAxis.get_set_self]

/-- Arcs that are alike across a plane look alike across it, whatever is asked. -/
theorem looksAlike (plane : Plane) :
    LooksAlike (AlikeAcross plane : ArcWalk α → ArcWalk α → Prop)
      fun waypoint => plane.height waypoint.point :=
  looksAlike_of_next (fun _ _ h => remaining_congr h.plan.segments h.cursor)
    (fun _ _ skipped h => h.reached skipped)
    (fun _ _ h => next_congr h.plan.segments h.cursor ⟨h.height_moved, h.moved⟩
      ⟨h.plan.target, h.plan, congrArg (· + 1) h.cursor, h.height⟩ h)

end AlikeAcross

end ArcWalk

end Toolpath
