import Toolpath.Configuration.Basic

/-!
# From positions to motor steps

Kinematics say where the motors have to be for the tool to be at a point. Cartesian machines
have one motor on each axis, and take the step nearest to the scaled coordinate.
-/

namespace Toolpath

variable {α : Type} [Scalar α]

/-- Absolute motor position for each point. -/
structure Kinematics (α : Type) where
  /-- Motor steps at a point in millimeters. -/
  steps : PerAxis α → PerAxis Int32

/-- The drive of a machine with one motor on each axis. -/
structure CartesianDrive (α : Type) where
  /-- Motor steps per millimeter on each axis. -/
  stepsPerMillimeter : PerAxis α
  deriving DecidableEq, Repr

namespace CartesianDrive

/-- Nearest step of each scaled coordinate; a half goes away from zero, and a coordinate
beyond the range of a step counter stays at its end. -/
def steps (drive : CartesianDrive α) (point : PerAxis α) : PerAxis Int32 :=
  PerAxis.zipWith (fun coordinate ratio => Scalar.nearestStep (coordinate * ratio)) point
    drive.stepsPerMillimeter

/-- Kinematics that count steps on each axis. -/
def kinematics (drive : CartesianDrive α) : Kinematics α := ⟨drive.steps⟩

/-- Each axis depends on its own coordinate only. -/
theorem steps_get (drive : CartesianDrive α) (point : PerAxis α) (axis : Axis) :
    (drive.steps point).get axis =
      Scalar.nearestStep (point.get axis * drive.stepsPerMillimeter.get axis) := by
  rw [steps, PerAxis.get_zipWith]

end CartesianDrive

/-- Kinematics of the configured drive. -/
def DriveConfig.kinematics (config : DriveConfig α) : Kinematics α :=
  match config.kind with
  | .cartesian => (CartesianDrive.mk config.stepsPerMillimeter).kinematics

end Toolpath
