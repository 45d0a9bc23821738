import Toolpath.Proofs.Configuration.Usable
import Toolpath.Proofs.Machine.Run
import Toolpath.Proofs.Move.Arrival

/-!
# The way that was not handed on

The commanded position runs ahead of where the tool was last sent, by what the planner has not
been given. In exact arithmetic this gap stays below the least move as long as lines and arcs
with a path are carried out. An arc whose path has length zero is passed over whatever its target
is, so the gap can then be of any size.
-/

namespace Toolpath

variable {σ : Type}

namespace ProgramState

/-- The legs of a line lead near to its target, from a point near to its start. -/
theorem lineCourse_arrives {program : ProgramState ℝ} {last : PerAxis ℝ}
    (hnear : (last.vectorTo program.position).norm < leastMove) (settings : Settings ℝ)
    (target : PerAxis ℝ) (rate : ℝ) :
    ((Leg.finish last (Leg.through last
      (program.lineCourse settings target rate))).vectorTo target).norm < leastMove := by
  rcases LineWalk.cut_arrives program.position target rate settings.maxLineSegment with
    ⟨hzero, hnone⟩ | ⟨-, hlast⟩
  · rw [exact_beq_zero_iff, PerAxis.exact_norm_vectorTo_eq_zero_iff] at hzero
    rw [lineCourse, hnone, ← hzero]
    exact hnear
  · exact Leg.finish_through_near PerAxis.exact_norm_vectorTo_self_lt hlast last

/-- The arc of an instruction in a sense of turn. -/
def arcOf {α : Type} [Scalar α] (program : ProgramState α) (instruction : Instruction α)
    (turn : Turn) : Arc α :=
  .ofOffset program.position (program.target instruction) (program.centerOffset instruction) turn
    program.plane

end ProgramState

namespace Machine

/-- Distance from where the tool was last sent to the commanded position. -/
def gap {α : Type} [Scalar α] (machine : Machine α σ) : α :=
  (machine.dispatcher.last.vectorTo machine.program.position).norm

section Course

variable {α : Type} [Scalar α] {machine : Machine α σ} {instruction : Instruction α}

/-- An instruction in a straight mode leads along a line from the commanded position. -/
theorem course_of_straight
    (hmode : (machine.program.withModes instruction).mode = .seek ∨
      (machine.program.withModes instruction).mode = .feed) :
    ∃ rate, machine.course (.obey instruction) =
      machine.program.lineCourse machine.settings
        ((machine.program.withModes instruction).target instruction) rate := by
  obtain ⟨feedRate, seekRate, hrate⟩ :=
    (machine.program.withModes instruction).withRate_eq instruction
  have hposition := machine.program.withModes_position instruction
  rcases hmode with hmode | hmode
  · refine ⟨seekRate, ?_⟩
    simp only [course, hrate, ProgramState.course, ProgramState.lineCourse, hmode, hposition]
  · refine ⟨feedRate, ?_⟩
    simp only [course, hrate, ProgramState.course, ProgramState.lineCourse, hmode, hposition]

/-- An instruction in an arc mode leads along its arc. -/
theorem course_of_arc {turn : Turn}
    (hmode : (machine.program.withModes instruction).mode = .arc turn) :
    ∃ rate, machine.course (.obey instruction) =
      WaypointSupply.toList
        (ArcWalk.cut ((machine.program.withModes instruction).arcOf instruction turn) rate
          machine.settings.maxArcSegment machine.settings.correctionInterval) := by
  obtain ⟨feedRate, seekRate, hrate⟩ :=
    (machine.program.withModes instruction).withRate_eq instruction
  refine ⟨feedRate, ?_⟩
  simp only [course, hrate, ProgramState.course, ProgramState.arcCourse, hmode]
  rfl

end Course

variable {downstream : Downstream ℝ σ} {machine : Machine ℝ σ} {instruction : Instruction ℝ}
  {tally : Tally}

/-- The legs of a straight instruction lead near to its target. -/
theorem legs_arrive_of_straight (hnear : machine.gap < leastMove)
    (hmode : (machine.program.withModes instruction).mode = .seek ∨
      (machine.program.withModes instruction).mode = .feed) :
    ((Leg.finish machine.dispatcher.last (machine.legs (.obey instruction))).vectorTo
      ((machine.program.withModes instruction).target instruction)).norm < leastMove := by
  obtain ⟨rate, hcourse⟩ := course_of_straight hmode
  rw [legs, Dispatcher.legs, hcourse]
  exact ProgramState.lineCourse_arrives hnear _ _ rate

/-- A straight instruction with a target that is far enough off has blocks. -/
theorem blocks_ne_nil_of_far (hnear : machine.gap < leastMove)
    (hmode : (machine.program.withModes instruction).mode = .seek ∨
      (machine.program.withModes instruction).mode = .feed)
    (hfar : ¬ (machine.dispatcher.last.vectorTo
      ((machine.program.withModes instruction).target instruction)).norm < leastMove) :
    machine.blocks (.obey instruction) ≠ [] := by
  intro hnone
  have hlegs : machine.legs (.obey instruction) = [] := List.map_eq_nil_iff.mp hnone
  have harrive := legs_arrive_of_straight hnear hmode
  rw [hlegs] at harrive
  exact hfar harrive

/-- A straight instruction that ends well keeps the gap small. -/
theorem obey_gap_of_straight (hnear : machine.gap < leastMove)
    (hok : (machine.obey downstream instruction).1 = .ok tally)
    (hmode : (machine.program.withModes instruction).mode = .seek ∨
      (machine.program.withModes instruction).mode = .feed) :
    (machine.obey downstream instruction).2.gap < leastMove := by
  rw [gap, obey_position, (obey_of_ok hok).2]
  exact legs_arrive_of_straight hnear hmode

/-- An arc with a path that ends well leaves a small gap. -/
theorem obey_gap_of_arc {turn : Turn}
    (hok : (machine.obey downstream instruction).1 = .ok tally)
    (hmode : (machine.program.withModes instruction).mode = .arc turn)
    (hpath : ((machine.program.withModes instruction).arcOf instruction turn).length ≠ 0) :
    (machine.obey downstream instruction).2.gap < leastMove := by
  obtain ⟨rate, hcourse⟩ := course_of_arc hmode
  rw [gap, obey_position, (obey_of_ok hok).2, legs, Dispatcher.legs, hcourse]
  rcases ArcWalk.cut_arrives ((machine.program.withModes instruction).arcOf instruction turn) rate
    machine.settings.maxArcSegment machine.settings.correctionInterval with
    ⟨hzero, -⟩ | ⟨-, hlast⟩
  · exact absurd ((exact_beq_zero_iff _).mp hzero) hpath
  · exact Leg.finish_through_near PerAxis.exact_norm_vectorTo_self_lt hlast _

/-- An arc whose path has length zero is passed over. -/
theorem course_of_arc_of_length_zero {turn : Turn}
    (hmode : (machine.program.withModes instruction).mode = .arc turn)
    (hpath : ((machine.program.withModes instruction).arcOf instruction turn).length = 0) :
    machine.course (.obey instruction) = [] := by
  obtain ⟨rate, hcourse⟩ := course_of_arc hmode
  rcases ArcWalk.cut_arrives ((machine.program.withModes instruction).arcOf instruction turn) rate
    machine.settings.maxArcSegment machine.settings.correctionInterval with
    ⟨-, hnone⟩ | ⟨hlength, -⟩
  · rw [hcourse, hnone]
  · exact absurd ((exact_beq_zero_iff _).mpr hpath) hlength

/-- An instruction without waypoints ends well, and the tool is last sent where it was. -/
theorem obey_of_course_nil (downstream : Downstream ℝ σ)
    (hcourse : machine.course (.obey instruction) = []) :
    (machine.obey downstream instruction).1 = .ok .none ∧
      (machine.obey downstream instruction).2.dispatcher.last = machine.dispatcher.last := by
  have hlegs : machine.legs (.obey instruction) = [] := by
    rw [legs, hcourse]
    rfl
  have hblocks : machine.blocks (.obey instruction) = [] := by
    rw [blocks, hcourse]
    rfl
  have hlast : machine.lastAfter 0 (.obey instruction) = machine.dispatcher.last := by
    rw [lastAfter]
    simp only [Request.declared?, hcourse]
    rfl
  rw [obey_eq_deliver]
  simp only [hblocks, Downstream.deliver_nil, resultUnless, tally, hcourse, hlegs, List.length_nil]
  exact ⟨rfl, hlast⟩

/-- A whole number makes the modal setting of its integer. -/
theorem exact_ofNumber?_intCast (n : ℤ) :
    ModalSetting.ofNumber? (n : ℝ) = ModalSetting.ofInt? n := by
  rw [ModalSetting.ofNumber?, exact_whole?_intCast]
  rfl

/-- Line of a program with a modal number and a target ten millimeters along the first axis. -/
noncomputable def tenAlongX (number : ℝ) : Instruction ℝ := .ofWords [⟨'G', number⟩, ⟨'X', 10⟩]

/-- The modal number of the line decides the mode. -/
theorem withModes_tenAlongX (program : ProgramState ℝ) {number : ℤ} {mode : MoveMode}
    (h : ModalSetting.ofInt? number = some (.move mode)) :
    program.withModes (tenAlongX number) = { program with mode } := by
  have hnumbers : (tenAlongX number).numbers 'G' = [(number : ℝ)] := rfl
  have hsetting : ModalSetting.ofNumber? (number : ℝ) = some (.move mode) :=
    (exact_ofNumber?_intCast number).trans h
  rw [ProgramState.withModes, hnumbers, ProgramState.putAll, List.filterMap_cons_some hsetting]
  rfl

/-- On the standard machine the line leads ten millimeters away from the origin. -/
theorem target_tenAlongX (planner : σ) {number : ℤ} {mode : MoveMode}
    (h : ModalSetting.ofInt? number = some (.move mode)) :
    ((standard planner : Machine ℝ σ).program.withModes (tenAlongX number)).target
      (tenAlongX number) = (standard planner : Machine ℝ σ).dispatcher.last.set .x 10 := by
  rw [withModes_tenAlongX _ h]
  rfl

/-- On the standard machine the gap is zero. -/
theorem gap_standard (planner : σ) : (standard planner : Machine ℝ σ).gap < leastMove :=
  PerAxis.exact_norm_vectorTo_self_lt _

/-- The point ten millimeters along the first axis is that far from the origin. -/
theorem norm_ten (planner : σ) :
    ((standard planner : Machine ℝ σ).dispatcher.last.vectorTo
      ((standard planner : Machine ℝ σ).dispatcher.last.set .x 10)).norm = 10 := by
  have hnorm : ((standard planner : Machine ℝ σ).dispatcher.last.vectorTo
      ((standard planner : Machine ℝ σ).dispatcher.last.set .x 10)).norm = √(10 ^ 2) := by
    change √((10 - 0.0) * (10 - 0.0) + (0.0 - 0.0) * (0.0 - 0.0) + (0.0 - 0.0) * (0.0 - 0.0)) = _
    norm_num
  rw [hnorm, Real.sqrt_sq (by norm_num)]

/-- It is not near to the origin. -/
theorem not_near_ten (planner : σ) :
    ¬ ((standard planner : Machine ℝ σ).dispatcher.last.vectorTo
      ((standard planner : Machine ℝ σ).dispatcher.last.set .x 10)).norm < leastMove := by
  rw [norm_ten, leastMove]
  norm_num

/-- Lines and arcs with a path keep the gap small. In exact arithmetic, whatever state a machine is
in with a gap below the least move, an instruction that ends well in a straight mode leaves a gap
below it, and so does one in an arc mode if its arc has a path. An arc without a path hands
nothing on: the tool is last sent where it was, and the commanded position becomes the target. -/
theorem obey_gap (downstream : Downstream ℝ σ) {machine : Machine ℝ σ}
    {instruction : Instruction ℝ} {tally : Tally} (hnear : machine.gap < leastMove)
    (hok : (machine.obey downstream instruction).1 = .ok tally) :
    let after := (machine.obey downstream instruction).2
    (after.program.mode = .seek ∨ after.program.mode = .feed → after.gap < leastMove) ∧
    ∀ turn, after.program.mode = .arc turn →
      let arc := (machine.program.withModes instruction).arcOf instruction turn
      (arc.sweep * arc.radius ≠ 0 ∨ arc.rise ≠ 0 → after.gap < leastMove) ∧
      (arc.sweep * arc.radius = 0 ∧ arc.rise = 0 →
        tally = .none ∧ after.dispatcher.last = machine.dispatcher.last ∧
          after.program.position = arc.target) := by
  intro after
  have hmode : after.program.mode = (machine.program.withModes instruction).mode :=
    obey_mode downstream machine instruction
  constructor
  · intro hstraight
    rw [hmode] at hstraight
    exact obey_gap_of_straight hnear hok hstraight
  · intro turn harc arc
    rw [hmode] at harc
    have hlength := arc.exact_length_eq_zero_iff
    constructor
    · intro hpath
      have hne : arc.length ≠ 0 := by
        intro hzero
        obtain ⟨hturn, hrise⟩ := hlength.mp hzero
        exact hpath.elim (fun h => h hturn) (fun h => h hrise)
      exact obey_gap_of_arc hok harc hne
    · intro hpath
      have hcourse := course_of_arc_of_length_zero harc (hlength.mpr hpath)
      obtain ⟨hnone, hlast⟩ := obey_of_course_nil downstream hcourse
      rw [hnone] at hok
      exact ⟨(Except.ok.inj hok).symm, hlast, obey_position downstream machine instruction⟩

/-- A straight line of ten millimeters leaves a small gap on the standard machine. -/
theorem obey_gap_tenAlongX :
    let machine : Machine ℝ (List (Block ℝ)) := standard []
    let after := (machine.obey .recorder (tenAlongX ((1 : ℤ) : ℝ))).2
    machine.gap < leastMove ∧
    (machine.obey .recorder (tenAlongX ((1 : ℤ) : ℝ))).1 =
      .ok (machine.tally (.obey (tenAlongX ((1 : ℤ) : ℝ)))) ∧
    after.program.mode = .feed ∧ after.gap < leastMove := by
  intro machine after
  have hnear : machine.gap < leastMove := gap_standard []
  have hok : (machine.obey .recorder (tenAlongX ((1 : ℤ) : ℝ))).1 =
      .ok (machine.tally (.obey (tenAlongX ((1 : ℤ) : ℝ)))) := by
    rw [obey_eq_deliver]
    simp only [Downstream.recorder_deliver, resultUnless]
  have hmode : after.program.mode = .feed := by
    rw [obey_mode, withModes_tenAlongX machine.program rfl]
  exact ⟨hnear, hok, hmode, (obey_gap .recorder hnear hok).1 (.inr hmode)⟩

/-- The gap can get as large as a move is long: an arc to a point ten millimeters away whose center
is not given has no path, so nothing is handed on, while the commanded position moves. -/
theorem lost_arc_tenAlongX :
    let machine : Machine ℝ (List (Block ℝ)) := standard []
    let outcome := machine.obey .recorder (tenAlongX ((3 : ℤ) : ℝ))
    withKinematics Configuration.standard DriveConfig.standard.kinematics [] = .ok machine ∧
    machine.gap < leastMove ∧ outcome.1 = .ok .none ∧
    outcome.2.program.mode = .arc .counterClockwise ∧ ¬ outcome.2.gap < leastMove := by
  intro machine outcome
  have hmodes : machine.program.withModes (tenAlongX ((3 : ℤ) : ℝ)) =
      { machine.program with mode := .arc .counterClockwise } :=
    withModes_tenAlongX machine.program rfl
  have harc : (machine.program.withModes (tenAlongX ((3 : ℤ) : ℝ))).mode =
      .arc .counterClockwise := by rw [hmodes]
  have htarget : (machine.program.withModes (tenAlongX ((3 : ℤ) : ℝ))).target
      (tenAlongX ((3 : ℤ) : ℝ)) = machine.dispatcher.last.set .x 10 := target_tenAlongX [] rfl
  have hpath : ((machine.program.withModes (tenAlongX ((3 : ℤ) : ℝ))).arcOf
      (tenAlongX ((3 : ℤ) : ℝ)) .counterClockwise).length = 0 := by
    have hradius : ({ machine.program with mode := .arc .counterClockwise }.arcOf
        (tenAlongX ((3 : ℤ) : ℝ)) .counterClockwise).radius = 0 := by
      change Scalar.hypot (0.0 : ℝ) 0.0 = 0
      rw [exact_hypot_eq_zero_iff]
      norm_num
    have hrise : ({ machine.program with mode := .arc .counterClockwise }.arcOf
        (tenAlongX ((3 : ℤ) : ℝ)) .counterClockwise).rise = 0 := by
      change (0.0 : ℝ) - 0.0 = 0
      norm_num
    rw [hmodes, Arc.exact_length_eq_zero_iff, hradius, hrise]
    exact ⟨mul_zero _, rfl⟩
  obtain ⟨hok, hlast⟩ := obey_of_course_nil .recorder (course_of_arc_of_length_zero harc hpath)
  refine ⟨exact_withKinematics_standard [], gap_standard [], hok,
    (obey_mode .recorder machine _).trans harc, ?_⟩
  rw [gap, hlast, obey_position, htarget]
  exact not_near_ten []

end Machine

end Toolpath
