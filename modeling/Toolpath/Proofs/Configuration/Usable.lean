import Toolpath.Machine.Basic
import Toolpath.Proofs.Exact

/-!
# Usable configurations

A configuration is usable when every one of its conditions holds, and then it makes a machine.
Over the real numbers the standard configuration is usable, so that there are machines to speak of
in exact arithmetic.
-/

namespace Toolpath

namespace Configuration

variable {α : Type} [Scalar α]

/-- What the check of a configuration comes to. -/
def verdict (config : Configuration α) : Except (ConfigFault α) Unit :=
  match config.fault? with
  | some fault => .error fault
  | none => .ok ()

/-- A configuration passes its check exactly when it has no fault. -/
theorem verdict_eq_ok_iff (config : Configuration α) :
    config.verdict = .ok () ↔ config.fault? = none := by
  rw [verdict]
  cases config.fault? with
  | some fault => exact ⟨nofun, nofun⟩
  | none => exact ⟨fun _ => rfl, fun _ => rfl⟩

/-- A configuration that does not pass its check is told its fault. -/
theorem verdict_eq_error_iff (config : Configuration α) (fault : ConfigFault α) :
    config.verdict = .error fault ↔ config.fault? = some fault := by
  rw [verdict]
  cases config.fault? with
  | some other => rw [Except.error.injEq, Option.some.injEq]
  | none => exact ⟨nofun, nofun⟩

/-- No ratio is at fault exactly when all are positive. -/
theorem ratioFault?_eq_none_iff (ratios : PerAxis α) :
    ratioFault? ratios = none ↔ ∀ axis, Scalar.isPositive (ratios.get axis) = true := by
  rw [ratioFault?, Option.map_eq_none_iff, List.find?_eq_none]
  constructor
  · intro h axis
    have haxis := h axis (Axis.mem_all axis)
    rwa [Bool.not_eq_true', Bool.not_eq_false] at haxis
  · intro h axis _
    rw [h axis]
    exact Bool.false_ne_true

/-- A configuration has no fault exactly when all its conditions hold. -/
theorem fault?_eq_none_iff (config : Configuration α) :
    config.fault? = none ↔
      config.lineSegmentLength.isPositive = true ∧ config.arcSegmentLength.isPositive = true ∧
      Scalar.isPositive config.feedRate.value = true ∧
      Scalar.isPositive config.seekRate.value = true ∧ config.correctionInterval ≠ 0 ∧
      ∀ axis, Scalar.isPositive (config.drive.stepsPerMillimeter.get axis) = true := by
  rw [← ratioFault?_eq_none_iff]
  have hcheck (bad : Bool) (fault : ConfigFault α) (others : Option (ConfigFault α)) :
      (if (!bad) = true then some fault else others) = none ↔ bad = true ∧ others = none := by
    cases bad <;> simp
  have hinterval (fault : ConfigFault α) (others : Option (ConfigFault α)) :
      (if config.correctionInterval = 0 then some fault else others) = none ↔
        config.correctionInterval ≠ 0 ∧ others = none := by
    by_cases h : config.correctionInterval = 0 <;> simp [h]
  unfold fault?
  rw [hcheck, hcheck, hcheck, hcheck, hinterval]

/-- Over the real numbers the standard configuration has no fault. -/
theorem exact_standard_fault? : (standard : Configuration ℝ).fault? = none := by
  rw [fault?_eq_none_iff]
  simp only [Length.isPositive, exact_isPositive_iff, standard]
  refine ⟨by norm_num, by norm_num, by norm_num, by norm_num, by decide, fun axis => ?_⟩
  cases axis <;> norm_num [DriveConfig.standard, PerAxis.get]

end Configuration

namespace Machine

variable {α σ : Type} [Scalar α]

/-- Making a machine with given kinematics fails as the check of the configuration does. -/
theorem withKinematics_verdict (config : Configuration α) (kinematics : Kinematics α)
    (planner : σ) :
    (withKinematics config kinematics planner).map (fun _ => ()) = config.verdict := by
  rw [withKinematics, Configuration.verdict]
  cases config.fault? <;> rfl

/-- Taking over a configuration fails as its check does. -/
theorem adopt_verdict (machine : Machine α σ) (config : Configuration α) :
    (machine.adopt config).1 = config.verdict := by
  rw [adopt, Configuration.verdict]
  cases config.fault? <;> rfl

/-- The new machine of the standard configuration. -/
def standard (planner : σ) : Machine α σ :=
  let settings : Settings α := Configuration.standard.settings
  ⟨.initial settings, settings,
    ⟨DriveConfig.standard.kinematics, settings.poll, PerAxis.uniform 0.0, planner⟩⟩

/-- A configuration makes a machine exactly when it has no fault: a machine at the origin with the
settings of the configuration. -/
theorem withKinematics_eq_ok_iff {config : Configuration α} {kinematics : Kinematics α}
    {planner : σ} {machine : Machine α σ} :
    withKinematics config kinematics planner = .ok machine ↔
      config.fault? = none ∧ machine = ⟨.initial config.settings, config.settings,
        ⟨kinematics, config.settings.poll, PerAxis.uniform 0.0, planner⟩⟩ := by
  unfold withKinematics
  cases config.fault? with
  | some fault => exact ⟨nofun, nofun⟩
  | none => exact ⟨fun h => ⟨rfl, (Except.ok.inj h).symm⟩, fun ⟨_, h⟩ => congrArg Except.ok h.symm⟩

/-- A new machine stands at the origin and has the kinematics that it was given. -/
theorem dispatcher_of_withKinematics {config : Configuration α} {kinematics : Kinematics α}
    {planner : σ} {machine : Machine α σ}
    (h : withKinematics config kinematics planner = .ok machine) :
    machine.dispatcher = ⟨kinematics, config.settings.poll, PerAxis.uniform 0.0, planner⟩ := by
  obtain ⟨-, rfl⟩ := withKinematics_eq_ok_iff.mp h
  rfl

/-- Over the real numbers the standard configuration makes the standard machine. -/
theorem exact_withKinematics_standard (planner : σ) :
    withKinematics Configuration.standard DriveConfig.standard.kinematics planner =
      .ok (standard planner : Machine ℝ σ) :=
  withKinematics_eq_ok_iff.mpr ⟨Configuration.exact_standard_fault?, rfl⟩

end Machine

end Toolpath
