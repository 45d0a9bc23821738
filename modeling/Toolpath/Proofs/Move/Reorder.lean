import Toolpath.Binary64.Arithmetic
import Toolpath.Proofs.Move.Components

/-!
# Planes differ by the order of the axes only

An arc in any plane is an arc in the plane of the first two axes once its points are read in the
order of its plane: along the two axes of the plane and then across it. Nothing is computed
differently, number for number, and every waypoint is the reordered one. What an arc does in its
plane and what it does across it have nothing to do with each other but for the number of segments,
and an offset across the plane is not read at all.
-/

namespace Toolpath

open WaypointSupply (answers)

/-- Values in the order of a plane: those on its two axes, and then the one across it. -/
def Plane.reorder {β : Type} (plane : Plane) (values : PerAxis β) : PerAxis β :=
  ⟨values.get plane.first, values.get plane.second, values.get plane.perpendicular⟩

variable {α : Type}

/-- Waypoint at the reordered point. -/
def Waypoint.reorder (plane : Plane) (waypoint : Waypoint α) : Waypoint α :=
  { waypoint with point := plane.reorder waypoint.point }

/-- The arc in the plane of the first two axes whose points are those of an arc in the order of its
plane. -/
def Arc.reorder (arc : Arc α) : Arc α :=
  { arc with
    start := arc.plane.reorder arc.start
    target := arc.plane.reorder arc.target
    offset := arc.plane.reorder arc.offset
    plane := .xy }

/-- What stays fixed of the reordered arc. -/
def ArcPlan.reorder (plan : ArcPlan α) : ArcPlan α :=
  { plan with plane := .xy, target := plan.plane.reorder plan.target }

/-- The reordered arc in the course of handing out its waypoints. -/
def ArcWalk.reorder (arc : ArcWalk α) : ArcWalk α :=
  { arc with plan := arc.plan.reorder, point := arc.plan.plane.reorder arc.point }

/-- A value on the perpendicular axis is replaced before or after reordering. -/
theorem Plane.reorder_set_perpendicular (plane : Plane) (values : PerAxis α) (value : α) :
    plane.reorder (values.set plane.perpendicular value) =
      (plane.reorder values).set .z value := by
  cases plane <;> rfl

/-- Values on the axes of a plane are replaced before or after reordering. -/
theorem Plane.reorder_set_set (plane : Plane) (values : PerAxis α) (first second : α) :
    plane.reorder ((values.set plane.first first).set plane.second second) =
      ((plane.reorder values).set .x first).set .y second := by
  cases plane <;> rfl

/-- Offsets that differ across the plane only have the same coordinates in it. -/
theorem Plane.planar_set_perpendicular (plane : Plane) (values : PerAxis α) (value : α) :
    plane.planar (values.set plane.perpendicular value) = plane.planar values := by
  cases plane <;> rfl

variable [Scalar α]

namespace ArcWalk

/-- A reordered arc is cut like the arc. -/
theorem cut_reorder (arc : Arc α) (rate maxLength : α) (interval : UInt8) :
    cut arc.reorder rate maxLength interval = (cut arc rate maxLength interval).reorder := rfl

/-- The reordered arc brings its radius vector to the same place. -/
theorem advanceRadius_reorder (arc : ArcWalk α) (index : UInt64) :
    arc.reorder.advanceRadius index = (arc.advanceRadius index).reorder := by
  have hturns : arc.reorder.turns < arc.reorder.plan.correctionInterval ↔
      arc.turns < arc.plan.correctionInterval := Iff.rfl
  unfold advanceRadius
  by_cases h : arc.turns < arc.plan.correctionInterval
  · rw [if_pos (hturns.mpr h), if_pos h]
    rfl
  · rw [if_neg (fun himage => h (hturns.mp himage)), if_neg h]
    rfl

/-- The reordered arc brings its point to the reordered place. -/
theorem advancePoint_reorder (arc : ArcWalk α) :
    arc.reorder.advancePoint = arc.advancePoint.reorder := by
  simp only [advancePoint, reorder, Plane.reorder_set_perpendicular, Plane.reorder_set_set]
  rfl

/-- The reordered arc moves to the reordered place. -/
theorem moved_reorder (arc : ArcWalk α) : arc.reorder.moved = arc.moved.reorder := by
  let stepped : ArcWalk α := { arc with cursor := arc.cursor + 1 }
  change (stepped.reorder.advanceRadius arc.cursor).advancePoint = _
  rw [advanceRadius_reorder, advancePoint_reorder]
  rfl

/-- The reordered arc hands out the reordered waypoint. -/
theorem next_reorder (arc : ArcWalk α) :
    arc.reorder.next =
      (arc.next.1.map (Waypoint.reorder arc.plan.plane), arc.next.2.reorder) := by
  have hpoint : arc.moved.reorder.point = arc.plan.plane.reorder arc.moved.point := by
    rw [← moved_plan arc]
    rfl
  refine next_image rfl rfl ?_ rfl
  rw [moved_reorder, hpoint]
  rfl

/-- The reordered arc passes over waypoints to the reordered place. -/
theorem reached_reorder (arc : ArcWalk α) (skipped : UInt64) :
    arc.reorder.reached skipped = (arc.reached skipped).reorder := by
  unfold reached
  by_cases hskip : skipped = 0
  · rw [if_pos hskip, if_pos hskip]
  · rw [if_neg hskip, if_neg hskip]
    simp only [skip, reorder, Plane.reorder_set_perpendicular]
    rfl

/-- A call hands out the reordered waypoint from the reordered arc. -/
theorem nth_reorder (arc : ArcWalk α) (skipped : UInt64) :
    arc.reorder.nth skipped =
      ((arc.nth skipped).1.map (Waypoint.reorder arc.plan.plane),
        (arc.nth skipped).2.reorder) := by
  rw [nth_eq_next, nth_eq_next, reached_reorder, next_reorder, reached_plan]

/-- Arcs of a plane show in the reordered ones. -/
theorem shows_reorder (plane : Plane) :
    WaypointSupply.Shows (fun walk : ArcWalk α => walk.plan.plane = plane) reorder
      (Waypoint.reorder plane) := by
  refine ⟨fun walk call hplane => ?_, fun walk call hplane => ?_, fun _ => rfl⟩
  · subst hplane
    cases call with
    | next => exact walk.next_reorder
    | nth skipped => exact walk.nth_reorder skipped
  · subst hplane
    cases call with
    | next => exact congrArg ArcPlan.plane walk.next_plan
    | nth skipped => exact congrArg ArcPlan.plane (walk.nth_plan skipped)

end ArcWalk

namespace Arc

/-- The radius that comes from the offset is that of the reordered offset. -/
theorem reorder_ofOffset (start target offset : PerAxis α) (turn : Turn) (plane : Plane) :
    (ofOffset start target offset turn plane).reorder =
      ofOffset (plane.reorder start) (plane.reorder target) (plane.reorder offset) turn .xy := rfl

/-- An arc with another offset across its plane is cut like the arc. -/
theorem cut_set_offset (arc : Arc α) (value rate maxLength : α) (interval : UInt8) :
    ArcWalk.cut { arc with offset := arc.offset.set arc.plane.perpendicular value } rate maxLength
      interval = ArcWalk.cut arc rate maxLength interval := by
  obtain ⟨start, target, offset, radius, turn, plane⟩ := arc
  cases plane <;> rfl

/-- Its path has the same length. -/
theorem length_set_offset (arc : Arc α) (value : α) :
    { arc with offset := arc.offset.set arc.plane.perpendicular value }.length = arc.length := by
  obtain ⟨start, target, offset, radius, turn, plane⟩ := arc
  cases plane <;> rfl

/-- Planes differ by the order of the axes only. Whatever numbers are used, an arc of any plane and
the arc in the plane of the first two axes whose points are those of the arc in the order of its
plane have the same sweep, rise and length, and the same radius if it comes from the offset. They
are cut alike, and whatever is asked they hand out the same waypoints but for the order of the
coordinates. An offset across the plane is not read at all, not for a radius either. Nothing leaks
between the axes: two arcs of a plane that are cut into as many segments hand out waypoints that are
alike in the plane if the arcs are, and waypoints of the same height if the arcs are alike across
it. -/
theorem reordered (arc : Arc α) :
    let plane := arc.plane
    let image := arc.reorder
    image.sweep = arc.sweep ∧ image.rise = arc.rise ∧ image.length = arc.length ∧
    (arc = ofOffset arc.start arc.target arc.offset arc.turn plane →
      image = ofOffset image.start image.target image.offset image.turn .xy) ∧
    (∀ rate maxLength interval,
      let fresh := ArcWalk.cut arc rate maxLength interval
      let flat := ArcWalk.cut image rate maxLength interval
      flat.plan.sweep = fresh.plan.sweep ∧ flat.plan.segments = fresh.plan.segments ∧
      flat.plan.stepAngle = fresh.plan.stepAngle ∧ flat.plan.stepRise = fresh.plan.stepRise ∧
      ∀ calls, answers flat calls = (answers fresh calls).map fun answer =>
        (answer.1.map (Waypoint.reorder plane), answer.2)) ∧
    (∀ value,
      let offset := arc.offset.set plane.perpendicular value
      (plane.planar offset).norm = (plane.planar arc.offset).norm ∧
      { arc with offset := offset }.length = arc.length ∧
      ∀ rate maxLength interval, ArcWalk.cut { arc with offset := offset } rate maxLength interval =
        ArcWalk.cut arc rate maxLength interval) ∧
    ∀ other rate maxLength interval rate' maxLength' interval',
      let fresh := ArcWalk.cut arc rate maxLength interval
      let second := ArcWalk.cut other rate' maxLength' interval'
      fresh.plan.segments = second.plan.segments →
      (arc.AlikeIn plane other → interval = interval' → ∀ calls,
        ((answers fresh calls).map fun answer =>
            (answer.1.map fun waypoint => plane.planar waypoint.point, answer.2)) =
          (answers second calls).map fun answer =>
            (answer.1.map fun waypoint => plane.planar waypoint.point, answer.2)) ∧
      (arc.AlikeAcross plane other → ∀ calls,
        ((answers fresh calls).map fun answer =>
            (answer.1.map fun waypoint => plane.height waypoint.point, answer.2)) =
          (answers second calls).map fun answer =>
            (answer.1.map fun waypoint => plane.height waypoint.point, answer.2)) := by
  intro plane image
  refine ⟨rfl, rfl, rfl, fun hradius => ?_, fun rate maxLength interval => ?_, fun value => ?_, ?_⟩
  · have hreorder := reorder_ofOffset arc.start arc.target arc.offset arc.turn plane
    rw [← hradius] at hreorder
    exact hreorder
  · intro fresh flat
    have hcut : flat = fresh.reorder := ArcWalk.cut_reorder arc rate maxLength interval
    rw [hcut]
    exact ⟨rfl, rfl, rfl, rfl, (ArcWalk.shows_reorder plane).answers_eq rfl⟩
  · intro offset
    have hplanar : plane.planar offset = plane.planar arc.offset :=
      plane.planar_set_perpendicular arc.offset value
    exact ⟨congrArg Planar.norm hplanar, arc.length_set_offset value,
      fun rate maxLength interval => arc.cut_set_offset value rate maxLength interval⟩
  · intro other rate maxLength interval rate' maxLength' interval' fresh second hsegments
    refine ⟨fun halike hinterval calls => ?_, fun halike calls => ?_⟩
    · subst hinterval
      have hplan := ArcPlan.cut_alikeIn halike hsegments
      have hfresh : fresh.AlikeIn plane second := ⟨hplan, rfl, hplan.startRadius, rfl⟩
      exact (ArcWalk.AlikeIn.looksAlike plane).answers_eq hfresh calls
    · have hplan := ArcPlan.cut_alikeAcross halike hsegments
      have hfresh : fresh.AlikeAcross plane second := ⟨hplan, rfl, halike.start⟩
      exact (ArcWalk.AlikeAcross.looksAlike plane).answers_eq hfresh calls

/-- A helix of binary64 numbers in the plane of the last two axes, with an offset across the plane
that nothing reads. -/
def helixExample : Arc Float :=
  ofOffset ⟨0.0, 1.0, 0.0⟩ ⟨3.0, 0.0, 1.0⟩ ⟨7.0, -1.0, 0.0⟩ .counterClockwise .yz

/-- The helix at another height. -/
def liftedExample : Arc Float :=
  { helixExample with start := ⟨4.0, 1.0, 0.0⟩, target := ⟨7.0, 0.0, 1.0⟩ }

/-- The helix around another center. -/
def movedExample : Arc Float :=
  { helixExample with start := ⟨0.0, 3.0, 5.0⟩, target := ⟨3.0, 2.0, 6.0⟩ }

/-- The helix is the reordered one in the plane of the first two axes. At another height it hands
out the same coordinates in the plane, around another center the same heights. -/
theorem reordered_helix :
    let calls : List WaypointSupply.Call := [.next, .nth 2, .next]
    let fresh := ArcWalk.cut helixExample 1.0 0.5 25
    let flat := ArcWalk.cut helixExample.reorder 1.0 0.5 25
    let lifted := ArcWalk.cut liftedExample 2.0 0.5 25
    let moved := ArcWalk.cut movedExample 1.0 0.5 3
    helixExample.reorder.start = ⟨1.0, 0.0, 0.0⟩ ∧ helixExample.reorder.target = ⟨0.0, 1.0, 3.0⟩ ∧
    (answers flat calls = (answers fresh calls).map fun answer =>
      (answer.1.map (Waypoint.reorder .yz), answer.2)) ∧
    (((answers fresh calls).map fun answer =>
        (answer.1.map fun waypoint => Plane.yz.planar waypoint.point, answer.2)) =
      (answers lifted calls).map fun answer =>
        (answer.1.map fun waypoint => Plane.yz.planar waypoint.point, answer.2)) ∧
    ((answers fresh calls).map fun answer =>
        (answer.1.map fun waypoint => Plane.yz.height waypoint.point, answer.2)) =
      (answers moved calls).map fun answer =>
        (answer.1.map fun waypoint => Plane.yz.height waypoint.point, answer.2) := by
  have hin : helixExample.AlikeIn .yz liftedExample :=
    ⟨rfl, rfl, by decide +kernel, by decide +kernel, rfl, rfl⟩
  have hacross : helixExample.AlikeAcross .yz movedExample :=
    ⟨rfl, rfl, by decide +kernel, by decide +kernel⟩
  have hlifted : helixExample.length = liftedExample.length := by
    have hrise : helixExample.rise = liftedExample.rise := by decide +kernel
    have hradius : helixExample.radius = liftedExample.radius := by simp only [liftedExample]
    rw [length, length, hrise, hin.sweep, hradius]
  have hmoved : helixExample.length = movedExample.length := by
    have hstart : helixExample.startRadius = movedExample.startRadius := by decide +kernel
    have htarget : helixExample.targetRadius = movedExample.targetRadius := by decide +kernel
    have hradius : helixExample.radius = movedExample.radius := by simp only [movedExample]
    have hsweep : helixExample.sweep = movedExample.sweep :=
      sweep_congr (by simp only [movedExample]) hstart htarget
    rw [length, length, hacross.rise, hsweep, hradius]
  obtain ⟨-, -, -, -, hcut, -, hleaks⟩ := reordered helixExample
  obtain ⟨-, -, -, -, hanswers⟩ := hcut 1.0 0.5 25
  have hinPlane := (hleaks liftedExample 1.0 0.5 25 2.0 0.5 25
    (ArcPlan.cut_segments_congr hlifted)).1 hin rfl
  have hheights := (hleaks movedExample 1.0 0.5 25 1.0 0.5 3
    (ArcPlan.cut_segments_congr hmoved)).2 hacross
  exact ⟨rfl, rfl, hanswers _, hinPlane _, hheights _⟩

end Arc

end Toolpath
