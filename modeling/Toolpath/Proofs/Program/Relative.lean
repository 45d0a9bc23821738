import Toolpath.Proofs.Machine.Plan
import Toolpath.Proofs.Move.Shift
import Toolpath.Proofs.Program.Absolute

/-!
# Relative instructions

An instruction that stays in relative coordinates only says how to go on from the commanded
position. In exact sums it leads, from a position that is shifted by a vector, through shifted
waypoints to the shifted target, and it sets up the same otherwise.
-/

namespace Toolpath

variable {α : Type} [Scalar α]

/-- The instruction stays in relative coordinates: if it says at all what coordinates count from, it
says last that they count from the position before the move. -/
def Instruction.StaysRelative (instruction : Instruction α) : Prop :=
  ∀ selected, ModalSetting.last? ModalSetting.distance? instruction.settings = some selected →
    selected = .relative

namespace ProgramState

/-- The same program at a position shifted by a vector. -/
def shift (vector : PerAxis α) (state : ProgramState α) : ProgramState α :=
  { state with position := state.position.shift vector }

variable {state : ProgramState α} {instruction : Instruction α}

/-- An instruction that stays in relative coordinates leaves them in force. -/
theorem withModes_distance (h : state.distance = .relative) (hstays : instruction.StaysRelative) :
    (state.withModes instruction).distance = .relative := by
  have hfold : state.withModes instruction = instruction.settings.foldl put state := rfl
  rw [hfold, foldl_put]
  cases hlast : ModalSetting.last? ModalSetting.distance? instruction.settings with
  | none => exact h
  | some selected => exact hstays selected hlast

variable (vector : PerAxis α)

/-- Modal settings are the same at a shifted position. -/
theorem withModes_shift (state : ProgramState α) (instruction : Instruction α) :
    (state.shift vector).withModes instruction = (state.withModes instruction).shift vector := by
  have hfold (state : ProgramState α) :
      state.withModes instruction = instruction.settings.foldl put state := rfl
  rw [hfold, hfold, foldl_put, foldl_put]
  rfl

/-- So is the rate. -/
theorem withRate_shift (state : ProgramState α) (instruction : Instruction α) :
    (state.shift vector).withRate instruction = (state.withRate instruction).shift vector := by
  unfold withRate
  cases instruction.number? 'F' with
  | none => rfl
  | some value =>
    rcases state with ⟨position, mode, unit, distance, plane, feedRate, seekRate⟩
    cases mode <;> rfl

variable (hexact : ExactSums α)
include hexact

/-- In relative coordinates the target is shifted with the position. -/
theorem target_shift (h : state.distance = .relative) (instruction : Instruction α) :
    (state.shift vector).target instruction = (state.target instruction).shift vector := by
  refine PerAxis.ext_get fun axis => ?_
  have hdistance : (state.shift vector).distance = .relative := h
  have hposition : (state.shift vector).position = state.position.shift vector := rfl
  rw [target, target, PerAxis.get_shift, PerAxis.get_ofFn, PerAxis.get_ofFn, targetOn, targetOn,
    hdistance, h, hposition, PerAxis.get_shift]
  cases instruction.number? axis.letter with
  | none => rfl
  | some value => exact hexact.add_right_comm _ _ _

/-- A relative instruction shifts the state after it with the position. -/
theorem obeyed_shift (h : (state.withModes instruction).distance = .relative) :
    (state.shift vector).obeyed instruction = (state.obeyed instruction).shift vector := by
  simp only [obeyed]
  rw [withModes_shift, withRate_shift, target_shift vector hexact h]
  rfl

/-- A straight move from the shifted position to the shifted target leads through the shifted
waypoints. -/
theorem lineCourse_shift (state : ProgramState α) (settings : Settings α) (target : PerAxis α)
    (rate : α) :
    (state.shift vector).lineCourse settings (target.shift vector) rate =
      (state.lineCourse settings target rate).map (Waypoint.shift vector) := by
  rw [lineCourse, lineCourse, ← LineWalk.toList_shift hexact, ← LineWalk.cut_shift hexact]
  rfl

/-- So does an arc. -/
theorem arcCourse_shift (state : ProgramState α) (settings : Settings α)
    (target offset : PerAxis α) (radius : α) (turn : Turn) :
    (state.shift vector).arcCourse settings (target.shift vector) offset radius turn =
      (state.arcCourse settings target offset radius turn).map (Waypoint.shift vector) := by
  rw [arcCourse, arcCourse, ← ArcWalk.toList_shift hexact, ← ArcWalk.cut_shift hexact]
  rfl

/-- So does a move in any mode. -/
theorem course_shift (state : ProgramState α) (settings : Settings α) (target offset : PerAxis α) :
    (state.shift vector).course settings (target.shift vector) offset =
      (state.course settings target offset).map (Waypoint.shift vector) := by
  have hmode : (state.shift vector).mode = state.mode := rfl
  rw [course, course, hmode]
  cases state.mode with
  | still => rfl
  | seek => exact lineCourse_shift vector hexact state settings target state.seekRate
  | feed => exact lineCourse_shift vector hexact state settings target state.feedRate
  | arc turn => exact arcCourse_shift vector hexact state settings target offset _ turn

end ProgramState

end Toolpath
