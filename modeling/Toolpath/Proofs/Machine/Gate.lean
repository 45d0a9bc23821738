import Toolpath.Binary64.Arithmetic
import Toolpath.Proofs.Configuration.Faults
import Toolpath.Proofs.Machine.Reachable

/-!
# Only usable settings reach a machine

Every way to make a machine or to change its configuration goes through the check of the
configuration and fails exactly as the check does. In whatever state requests leave a machine, lines
and arcs are therefore cut by usable lengths.
-/

namespace Toolpath

variable {α σ : Type} [Scalar α]

/-- Waypoints that are cut by settings: none, or those of a line or of an arc that is cut by their
lengths and their interval. -/
def Settings.CutInto (settings : Settings α) (waypoints : List (Waypoint α)) : Prop :=
  waypoints = [] ∨
  (∃ start target rate, waypoints =
    WaypointSupply.toList (LineWalk.cut start target rate settings.maxLineSegment)) ∨
  ∃ arc rate, waypoints =
    WaypointSupply.toList (ArcWalk.cut arc rate settings.maxArcSegment settings.correctionInterval)

/-- The waypoints of a move in the mode in force are cut by the settings. -/
theorem ProgramState.course_cutInto (program : ProgramState α) (settings : Settings α)
    (target offset : PerAxis α) : settings.CutInto (program.course settings target offset) := by
  rw [course]
  cases program.mode with
  | still => exact .inl rfl
  | seek => exact .inr (.inl ⟨_, _, _, rfl⟩)
  | feed => exact .inr (.inl ⟨_, _, _, rfl⟩)
  | arc turn => exact .inr (.inr ⟨_, _, rfl⟩)

namespace Machine

/-- The waypoints of a request are cut by the settings in use. -/
theorem course_cutInto (machine : Machine α σ) (request : Request α) :
    machine.settings.CutInto (machine.course request) := by
  cases request with
  | obey instruction => exact ProgramState.course_cutInto _ _ _ _
  | line target rate => exact .inr (.inl ⟨_, _, _, rfl⟩)
  | arc target offset radius turn => exact .inr (.inr ⟨_, _, rfl⟩)
  | setPosition _ | setMode _ | adopt _ => exact .inl rfl

/-- In whatever state requests leave a machine, its lengths are usable and its interval is at
least one. -/
theorem Reachable.usable {machine : Machine α σ} (h : machine.Reachable) :
    Usable machine.settings.maxLineSegment ∧ Usable machine.settings.maxArcSegment ∧
      1 ≤ machine.settings.correctionInterval := by
  obtain ⟨config, hfault, hsettings⟩ := h.settings
  obtain ⟨hline, harc, -, -, hinterval, -⟩ :=
    (Configuration.fault?_eq_none_iff_usable config).mp hfault
  rw [hsettings]
  exact ⟨hline, harc, hinterval⟩

/-- Settings that cannot be used never reach the cutting of moves. For every configuration of
binary64 numbers the check passes exactly when its lengths, rates and ratios are finite and above
zero and its interval is at least one; otherwise it tells of the first condition that fails. Making
a machine, with kinematics of its own or those of the configuration, and taking over a configuration
fail exactly as the check does, and every configuration that is read from a text passes it. In
whatever state requests leave a machine, its lengths are therefore usable and its interval is at
least one, and by these alone every request has its lines and arcs cut. -/
theorem settings_gated :
    (∀ config : Configuration Float,
      (config.verdict = .ok () ↔
        Usable config.lineSegmentLength.value ∧ Usable config.arcSegmentLength.value ∧
        Usable config.feedRate.value ∧ Usable config.seekRate.value ∧
        1 ≤ config.correctionInterval ∧
        ∀ axis, Usable (config.drive.stepsPerMillimeter.get axis)) ∧
      (∀ fault, config.verdict = .error fault ↔
        ∃ before condition after, config.conditions = before ++ condition :: after ∧
          (∀ earlier ∈ before, earlier.holds = true) ∧ condition.holds = false ∧
          condition.fault = fault) ∧
      (∀ kinematics (planner : σ),
        (withKinematics config kinematics planner).map (fun _ => ()) = config.verdict) ∧
      (∀ planner : σ, (ofConfiguration config planner).map (fun _ => ()) = config.verdict) ∧
      ∀ machine : Machine Float σ, (machine.adopt config).1 = config.verdict) ∧
    (∀ text config, Configuration.parse text = .ok config → config.verdict = .ok ()) ∧
    ∀ machine : Machine Float σ, machine.Reachable →
      Usable machine.settings.maxLineSegment ∧ Usable machine.settings.maxArcSegment ∧
      1 ≤ machine.settings.correctionInterval ∧
      ∀ request, machine.settings.CutInto (machine.course request) := by
  refine ⟨fun config => ⟨?_, fun fault => ?_, withKinematics_verdict config,
    withKinematics_verdict config config.drive.kinematics, fun machine =>
    machine.adopt_verdict config⟩, fun text config hparse => ?_, fun machine hreachable => ?_⟩
  · rw [Configuration.verdict_eq_ok_iff, Configuration.fault?_eq_none_iff_usable]
  · rw [Configuration.verdict_eq_error_iff, Configuration.fault?_eq_firstFault?,
      Configuration.firstFault?_eq_some_iff]
  · exact (Configuration.verdict_eq_ok_iff config).mpr (Configuration.fault?_of_parse hparse)
  · obtain ⟨hline, harc, hinterval⟩ := hreachable.usable
    exact ⟨hline, harc, hinterval, machine.course_cutInto⟩

/-- The standard configuration makes the standard machine of binary64 numbers. -/
theorem binary64_withKinematics_standard (planner : σ) :
    withKinematics Configuration.standard DriveConfig.standard.kinematics planner =
      .ok (standard planner : Machine Float σ) :=
  withKinematics_eq_ok_iff.mpr ⟨by decide, rfl⟩

/-- A length that is not a number is found before an interval of zero, and the standard machine,
whose own lengths are usable, does not take the configuration over. -/
theorem settings_gated_standard :
    let machine : Machine Float Unit := standard ()
    let unusable : Configuration Float :=
      { Configuration.standard with arcSegmentLength := ⟨0.0 / 0.0⟩, correctionInterval := 0 }
    machine.Reachable ∧ Usable machine.settings.maxLineSegment ∧
    (machine.adopt unusable).1 = .error (.arcSegmentLength (0.0 / 0.0)) := by
  intro machine unusable
  have hreachable : machine.Reachable := .new (binary64_withKinematics_standard ())
  obtain ⟨hchecks, -, hreach⟩ := @settings_gated Unit
  obtain ⟨-, hfault, -, -, hadopt⟩ := hchecks unusable
  obtain ⟨hline, -⟩ := hreach machine hreachable
  have hlength : decide (Usable unusable.lineSegmentLength.value) = true := by decide
  have harc : decide (Usable unusable.arcSegmentLength.value) = false := by decide
  have hfirst : unusable.verdict = .error (.arcSegmentLength (0.0 / 0.0)) :=
    (hfault _).mpr ⟨_, _, _, unusable.conditions_eq, List.forall_mem_singleton.mpr hlength, harc,
      rfl⟩
  exact ⟨hreachable, hline, (hadopt machine).trans hfirst⟩

end Machine

end Toolpath
