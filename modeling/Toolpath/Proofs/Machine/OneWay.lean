import Mathlib.Analysis.InnerProductSpace.PiL2
import Toolpath.Proofs.Machine.Chain
import Toolpath.Proofs.Machine.Gap
import Toolpath.Proofs.Move.Cutting

/-!
# Straight moves never turn a motor back

In exact arithmetic the waypoints of a line lie along the way to its target, one after the other.
Scaling a coordinate, rounding it to the nearest step and keeping it within the range of a counter
all respect the order of coordinates, so the motor steps of a straight move go one way only on each
axis, whichever waypoints were passed over.
-/

namespace Toolpath

variable {σ τ : Type}

section Steps

/-- Integers beyond the range of a signed word are taken to its ends. -/
theorem toInt_ofIntClamp (n : ℤ) :
    (Int32.ofIntClamp n).toInt = max Int32.minValue.toInt (min n Int32.maxValue.toInt) := by
  have hrange : Int32.minValue.toInt ≤ Int32.maxValue.toInt := by decide
  rw [Int32.ofIntClamp]
  split_ifs with hlow hhigh
  · rw [Int32.toInt_ofIntLE]
    omega
  · omega
  · omega

/-- The nearest step goes with the number. -/
theorem exact_nearestStep_mono {x y : ℝ} (h : x ≤ y) :
    Scalar.nearestStep x ≤ Scalar.nearestStep y := by
  have hround : (if x < 0 then ⌈x - 1 / 2⌉ else ⌊x + 1 / 2⌋) ≤
      if y < 0 then ⌈y - 1 / 2⌉ else ⌊y + 1 / 2⌋ := by
    by_cases hx : x < 0
    · rw [if_pos hx]
      by_cases hy : y < 0
      · rw [if_pos hy]
        exact Int.ceil_mono (by linarith)
      · -- the numbers lie on both sides of zero, and so do their roundings
        rw [if_neg hy]
        have hdown : ⌈x - 1 / 2⌉ ≤ 0 := Int.ceil_le.mpr (by push_cast; linarith)
        have hup : 0 ≤ ⌊y + 1 / 2⌋ := Int.floor_nonneg.mpr (by linarith)
        exact hdown.trans hup
    · have hy : ¬ y < 0 := fun hy => hx (h.trans_lt hy)
      rw [if_neg hx, if_neg hy]
      exact Int.floor_mono (by linarith)
  change Int32.ofIntClamp _ ≤ Int32.ofIntClamp _
  rw [Int32.le_iff_toInt_le, toInt_ofIntClamp, toInt_ofIntClamp]
  exact max_le_max le_rfl (min_le_min hround le_rfl)

/-- A whole number is its own nearest step, within the range of a counter. -/
theorem exact_nearestStep_intCast (n : ℤ) : Scalar.nearestStep (n : ℝ) = Int32.ofIntClamp n := by
  have hround : (if (n : ℝ) < 0 then ⌈(n : ℝ) - 1 / 2⌉ else ⌊(n : ℝ) + 1 / 2⌋) = n := by
    split_ifs with h
    · rw [Int.ceil_eq_iff]
      constructor <;> linarith
    · rw [Int.floor_eq_iff]
      constructor <;> linarith
  exact congrArg Int32.ofIntClamp hround

/-- With a positive ratio the steps of an axis go with its coordinate. -/
theorem CartesianDrive.exact_steps_mono {drive : CartesianDrive ℝ} {axis : Axis}
    (hratio : 0 < drive.stepsPerMillimeter.get axis) {here there : PerAxis ℝ}
    (h : here.get axis ≤ there.get axis) :
    (drive.steps here).get axis ≤ (drive.steps there).get axis := by
  rw [steps_get, steps_get]
  exact exact_nearestStep_mono (mul_le_mul_of_nonneg_right h hratio.le)

/-- Where a coordinate is a whole number of steps, that is the number taken, within the range of a
counter. -/
theorem CartesianDrive.exact_steps_get {drive : CartesianDrive ℝ} {axis : Axis} {point : PerAxis ℝ}
    {n : ℤ} (h : point.get axis * drive.stepsPerMillimeter.get axis = n) :
    (drive.steps point).get axis = Int32.ofIntClamp n := by
  rw [steps_get, h, exact_nearestStep_intCast]

end Steps

namespace PerAxis

/-- Points that lie along the way from one point to another, one after the other. -/
def Along (start target : PerAxis ℝ) (points : List (PerAxis ℝ)) : Prop :=
  ∃ fractions : List ℝ, fractions.Pairwise (· ≤ ·) ∧
    (∀ fraction ∈ fractions, 0 ≤ fraction ∧ fraction ≤ 1) ∧
    points = fractions.map (start.between target)

variable {start target : PerAxis ℝ} {points : List (PerAxis ℝ)} {axis : Axis}

/-- Some of the points along a way lie along it. -/
theorem Along.sublist (h : start.Along target points) {some : List (PerAxis ℝ)}
    (hsome : some.Sublist points) : start.Along target some := by
  obtain ⟨fractions, horder, hrange, rfl⟩ := h
  obtain ⟨chosen, hchosen, rfl⟩ := List.sublist_map_iff.mp hsome
  exact ⟨chosen, horder.sublist hchosen, fun fraction hmem => hrange fraction (hchosen.subset hmem),
    rfl⟩

/-- On the way back the points lie in the opposite order. -/
theorem Along.reverse (h : start.Along target points) : target.Along start points.reverse := by
  obtain ⟨fractions, horder, hrange, rfl⟩ := h
  refine ⟨(fractions.map (1 - ·)).reverse, ?_, fun fraction hmem => ?_, ?_⟩
  · rw [List.pairwise_reverse, List.pairwise_map]
    exact horder.imp fun hle => sub_le_sub_left hle 1
  · obtain ⟨forward, hforward, rfl⟩ := List.mem_map.mp (List.mem_reverse.mp hmem)
    obtain ⟨hzero, hone⟩ := hrange forward hforward
    exact ⟨sub_nonneg.mpr hone, sub_le_self 1 hzero⟩
  · rw [List.map_reverse, List.map_map]
    refine congrArg List.reverse (List.map_congr_left fun fraction _ => ext_get fun axis => ?_)
    rw [Function.comp_apply, between_get, between_get]
    ring

/-- Where a coordinate grows along the way, it grows with the fraction. -/
theorem between_get_mono (h : start.get axis ≤ target.get axis) {first second : ℝ}
    (horder : first ≤ second) :
    (start.between target first).get axis ≤ (start.between target second).get axis := by
  rw [between_get, between_get]
  have hway : 0 ≤ target.get axis - start.get axis := sub_nonneg.mpr h
  have hscaled := mul_le_mul_of_nonneg_left horder hway
  linarith

/-- Where a coordinate grows along the way, what goes with it grows from point to point, and stays
between what it is at both ends. -/
theorem Along.monotone {β : Type} [LE β] {value : PerAxis ℝ → β}
    (hvalue : ∀ here there : PerAxis ℝ, here.get axis ≤ there.get axis → value here ≤ value there)
    (h : start.Along target points) (hgrows : start.get axis ≤ target.get axis) :
    (points.map value).Pairwise (· ≤ ·) ∧
      ∀ point ∈ points, value start ≤ value point ∧ value point ≤ value target := by
  obtain ⟨fractions, horder, hrange, rfl⟩ := h
  refine ⟨?_, fun point hpoint => ?_⟩
  · rw [List.map_map, List.pairwise_map]
    exact horder.imp fun hle => hvalue _ _ (between_get_mono hgrows hle)
  · obtain ⟨fraction, hmem, rfl⟩ := List.mem_map.mp hpoint
    obtain ⟨hzero, hone⟩ := hrange fraction hmem
    have hlow := between_get_mono hgrows hzero
    have hhigh := between_get_mono hgrows hone
    rw [between_zero] at hlow
    rw [between_one] at hhigh
    exact ⟨hvalue _ _ hlow, hvalue _ _ hhigh⟩

/-- Where a coordinate shrinks along the way, what goes with it shrinks from point to point, and
stays between what it is at both ends. -/
theorem Along.antitone {β : Type} [LE β] {value : PerAxis ℝ → β}
    (hvalue : ∀ here there : PerAxis ℝ, here.get axis ≤ there.get axis → value here ≤ value there)
    (h : start.Along target points) (hshrinks : target.get axis ≤ start.get axis) :
    (points.map value).Pairwise (· ≥ ·) ∧
      ∀ point ∈ points, value target ≤ value point ∧ value point ≤ value start := by
  obtain ⟨horder, hrange⟩ := h.reverse.monotone hvalue hshrinks
  rw [List.map_reverse, List.pairwise_reverse] at horder
  exact ⟨horder, fun point hpoint => hrange point (List.mem_reverse.mpr hpoint)⟩

end PerAxis

/-- In exact arithmetic the waypoints of a line lie along the way to its target. -/
theorem LineWalk.exact_cut_along (start target : PerAxis ℝ) (rate maxLength : ℝ) :
    start.Along target
      ((WaypointSupply.toList (cut start target rate maxLength)).map Waypoint.point) := by
  let segments := (cut start target rate maxLength).segments.toNat
  have hpoints := exact_cut_points start target rate maxLength
  have hall : start.Along target
      (start :: (WaypointSupply.toList (cut start target rate maxLength)).map Waypoint.point) := by
    refine ⟨(List.range' 0 (segments + 1)).map fun index : ℕ => (index / segments : ℝ), ?_,
      fun fraction hmem => ?_, ?_⟩
    · rw [List.pairwise_map]
      refine List.pairwise_le_range'.imp fun hle => ?_
      exact div_le_div_of_nonneg_right (by exact_mod_cast hle) (Nat.cast_nonneg _)
    · obtain ⟨index, hindex, rfl⟩ := List.mem_map.mp hmem
      have hle : index ≤ segments := by
        have hrange := List.mem_range'_1.mp hindex
        omega
      exact ⟨by positivity, div_le_one_of_le₀ (by exact_mod_cast hle) (Nat.cast_nonneg _)⟩
    · rw [List.map_map]
      exact hpoints
  exact hall.sublist (List.sublist_cons_self _ _)

namespace Machine

section Target

variable {α : Type} [Scalar α]

/-- Target of a request that asks for a straight move: a move to a point, or an instruction that is
carried out in a straight mode. -/
def straightTarget? (machine : Machine α σ) : Request α → Option (PerAxis α)
  | .line target _ => some target
  | .obey instruction =>
    let program := machine.program.withModes instruction
    match program.mode with
    | .seek | .feed => some (program.target instruction)
    | .arc _ | .still => none
  | _ => none

/-- A straight move leads along a line from the commanded position. -/
theorem course_of_straightTarget? {machine : Machine α σ} {request : Request α}
    {target : PerAxis α} (h : machine.straightTarget? request = some target) :
    ∃ rate, machine.course request =
      machine.program.lineCourse machine.settings target rate := by
  cases request with
  | line goal rate =>
    obtain rfl := Option.some.inj h
    exact ⟨rate, rfl⟩
  | obey instruction =>
    rw [straightTarget?] at h
    cases hmode : (machine.program.withModes instruction).mode with
    | seek =>
      simp only [hmode, Option.some.injEq] at h
      rw [← h]
      exact course_of_straight (.inl hmode)
    | feed =>
      simp only [hmode, Option.some.injEq] at h
      rw [← h]
      exact course_of_straight (.inr hmode)
    | arc turn =>
      simp only [hmode] at h
      cases h
    | still =>
      simp only [hmode] at h
      cases h
  | arc | setPosition | setMode | adopt => cases h

/-- The blocks that are taken during a request are the first ones of its blocks, whatever the
planner says. -/
theorem perform_accepted_sublist (downstream : Downstream α σ) (planner : σ)
    (machine : Machine α τ) (request : Request α) :
    ((machine.onto (planner, [])).perform downstream.journaled request).2.journal.accepted.Sublist
      (machine.blocks request) := by
  have hnone : (machine.onto (planner, ([] : Journal α))).journal.accepted = [] := rfl
  rw [perform_accepted, marks_blocks, hnone, List.nil_append]
  exact List.take_sublist _ _

end Target

/-- The motor positions of the blocks of a straight move are those of points along its way. -/
theorem exact_blocks_along {machine : Machine ℝ τ} {request : Request ℝ} {target : PerAxis ℝ}
    (h : machine.straightTarget? request = some target) :
    ∃ points, machine.program.position.Along target points ∧
      (machine.blocks request).map Block.steps =
        points.map machine.dispatcher.kinematics.steps := by
  obtain ⟨rate, hcourse⟩ := course_of_straightTarget? h
  have halong := LineWalk.exact_cut_along machine.program.position target rate
    machine.settings.maxLineSegment
  refine ⟨(machine.legs request).map fun leg => leg.waypoint.point, halong.sublist ?_, ?_⟩
  · have hlegs := (Leg.through_sublist machine.dispatcher.last (machine.course request)).map
      Waypoint.point
    rw [List.map_map, hcourse] at hlegs
    rw [legs, hcourse]
    exact hlegs
  · rw [blocks, Dispatcher.blocks, List.map_map, List.map_map]
    rfl

/-- The motor positions of the blocks that are taken during a straight move are those of points
along its way. -/
theorem exact_accepted_along (downstream : Downstream ℝ σ) (planner : σ) {machine : Machine ℝ τ}
    {drive : CartesianDrive ℝ} {request : Request ℝ} {target : PerAxis ℝ}
    (hkinematics : machine.dispatcher.kinematics = drive.kinematics)
    (hstraight : machine.straightTarget? request = some target) :
    ∃ points, machine.program.position.Along target points ∧
      ((machine.onto (planner, [])).perform downstream.journaled request).2.journal.accepted.map
        Block.steps = points.map drive.steps := by
  obtain ⟨points, halong, hblocks⟩ := exact_blocks_along hstraight
  have htaken := (perform_accepted_sublist downstream planner machine request).map Block.steps
  rw [hblocks, hkinematics] at htaken
  obtain ⟨taken, hsublist, hsteps⟩ := List.sublist_map_iff.mp htaken
  exact ⟨taken, halong.sublist hsublist, hsteps⟩

/-- A straight move never turns a motor back. In exact arithmetic, with a drive whose ratios are
positive, whatever state a machine is in and whatever the planner says, the steps of the blocks that
are taken during a move to a point or an instruction in a straight mode go one way only on each
axis: they never fall if the target is not before the commanded position on the axis, and never rise
otherwise. All of them lie between the steps of the commanded position and those of the target, also
at the ends of a counter's range. -/
theorem perform_oneWay (downstream : Downstream ℝ σ) (planner : σ) {machine : Machine ℝ τ}
    {drive : CartesianDrive ℝ} {request : Request ℝ} {target : PerAxis ℝ}
    (hkinematics : machine.dispatcher.kinematics = drive.kinematics)
    (hratio : ∀ axis, 0 < drive.stepsPerMillimeter.get axis)
    (hstraight : machine.straightTarget? request = some target) :
    let start := machine.program.position
    let outcome := (machine.onto (planner, [])).perform downstream.journaled request
    ∀ axis,
      let steps := outcome.2.journal.accepted.map fun block => block.steps.get axis
      let first := (drive.steps start).get axis
      let last := (drive.steps target).get axis
      (start.get axis ≤ target.get axis →
        steps.Pairwise (· ≤ ·) ∧ ∀ step ∈ steps, first ≤ step ∧ step ≤ last) ∧
      (target.get axis < start.get axis →
        steps.Pairwise (· ≥ ·) ∧ ∀ step ∈ steps, last ≤ step ∧ step ≤ first) := by
  intro start outcome axis steps first last
  obtain ⟨points, halong, htaken⟩ := exact_accepted_along downstream planner hkinematics hstraight
  have hsteps : steps = points.map fun point => (drive.steps point).get axis := by
    have haxis := congrArg (List.map fun step : PerAxis Int32 => step.get axis) htaken
    rw [List.map_map, List.map_map] at haxis
    exact haxis
  have hmono (here there : PerAxis ℝ) (h : here.get axis ≤ there.get axis) :
      (drive.steps here).get axis ≤ (drive.steps there).get axis :=
    CartesianDrive.exact_steps_mono (hratio axis) h
  rw [hsteps]
  refine ⟨fun hgrows => ?_, fun hshrinks => ?_⟩
  · obtain ⟨horder, hrange⟩ := halong.monotone hmono hgrows
    exact ⟨horder, List.forall_mem_map.mpr hrange⟩
  · obtain ⟨horder, hrange⟩ := halong.antitone hmono hshrinks.le
    exact ⟨horder, List.forall_mem_map.mpr hrange⟩

/-- On the standard machine a move forward on the first axis and back on the second turns each of
the two motors one way, by at most eight hundred steps. -/
theorem perform_oneWay_diagonal :
    let machine : Machine ℝ Unit := standard ()
    let request : Request ℝ := .line ⟨10, -10, 0⟩ 1
    let taken := ((machine.onto ([], [])).perform Downstream.recorder.journaled
      request).2.journal.accepted
    let forward := taken.map fun block => block.steps.get .x
    let back := taken.map fun block => block.steps.get .y
    machine.straightTarget? request = some ⟨10, -10, 0⟩ ∧
    forward.Pairwise (· ≤ ·) ∧ (∀ step ∈ forward, 0 ≤ step ∧ step ≤ 800) ∧
    back.Pairwise (· ≥ ·) ∧ ∀ step ∈ back, -800 ≤ step ∧ step ≤ 0 := by
  intro machine request taken forward back
  let drive : CartesianDrive ℝ := ⟨DriveConfig.standard.stepsPerMillimeter⟩
  have hratio : ∀ axis, 0 < drive.stepsPerMillimeter.get axis := by
    intro axis
    cases axis with
    | x | y =>
      change (0 : ℝ) < 80.0
      norm_num
    | z =>
      change (0 : ℝ) < 1600.0
      norm_num
  have hstart (axis : Axis) : machine.program.position.get axis = 0 := by
    have horigin : machine.program.position.get axis = 0.0 := by cases axis <;> rfl
    rw [horigin]
    norm_num
  have hfirst (axis : Axis) : (drive.steps machine.program.position).get axis = 0 := by
    have hscaled : machine.program.position.get axis * drive.stepsPerMillimeter.get axis =
        (0 : ℤ) := by
      rw [hstart, zero_mul, Int.cast_zero]
    rw [CartesianDrive.exact_steps_get hscaled]
    decide
  have hlast : (drive.steps ⟨10, -10, 0⟩).get .x = 800 := by
    have hscaled : (10 : ℝ) * 80.0 = (800 : ℤ) := by norm_num
    exact Eq.trans (CartesianDrive.exact_steps_get hscaled) (by decide)
  have hlastBack : (drive.steps ⟨10, -10, 0⟩).get .y = -800 := by
    have hscaled : (-10 : ℝ) * 80.0 = (-800 : ℤ) := by norm_num
    exact Eq.trans (CartesianDrive.exact_steps_get hscaled) (by decide)
  have hkinematics : machine.dispatcher.kinematics = drive.kinematics := rfl
  have hstraight : machine.straightTarget? request = some ⟨10, -10, 0⟩ := rfl
  have haxes := perform_oneWay .recorder [] hkinematics hratio hstraight
  have hgrows : machine.program.position.get .x ≤ (⟨10, -10, 0⟩ : PerAxis ℝ).get .x := by
    rw [hstart]
    change (0 : ℝ) ≤ 10
    norm_num
  have hshrinks : (⟨10, -10, 0⟩ : PerAxis ℝ).get .y < machine.program.position.get .y := by
    rw [hstart]
    change (-10 : ℝ) < 0
    norm_num
  obtain ⟨horder, hrange⟩ := (haxes .x).1 hgrows
  obtain ⟨horderBack, hrangeBack⟩ := (haxes .y).2 hshrinks
  rw [hfirst, hlast] at hrange
  rw [hfirst, hlastBack] at hrangeBack
  exact ⟨hstraight, horder, hrange, horderBack, hrangeBack⟩

end Machine

end Toolpath
