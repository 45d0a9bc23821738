import Toolpath.Proofs.Configuration.Usable
import Toolpath.Proofs.Machine.Plan

/-!
# States that a machine can be in

A machine is made with a usable configuration, and no other is ever put in use. In whatever state
requests leave it, its settings are therefore those of a usable configuration.
-/

namespace Toolpath

variable {α σ : Type} [Scalar α]

namespace Machine

/-- States that requests can lead to, whatever is downstream and whatever happens there
meanwhile. -/
inductive Reachable : Machine α σ → Prop where
  /-- A new machine has been asked for nothing. -/
  | new {config : Configuration α} {kinematics : Kinematics α} {planner : σ}
      {machine : Machine α σ} (h : withKinematics config kinematics planner = .ok machine) :
      Reachable machine
  /-- A request was performed. -/
  | perform {machine : Machine α σ} (h : Reachable machine) (downstream : Downstream α σ)
      (request : Request α) : Reachable (machine.perform downstream request).2
  /-- Something else is downstream. -/
  | onto {machine : Machine α σ} (h : Reachable machine) (planner : σ) :
      Reachable (machine.onto planner)

/-- The settings of a machine are those of a usable configuration. -/
theorem Reachable.settings {machine : Machine α σ} (h : machine.Reachable) :
    ∃ config : Configuration α, config.fault? = none ∧ machine.settings = config.settings := by
  induction h with
  | new h =>
    obtain ⟨hfault, rfl⟩ := withKinematics_eq_ok_iff.mp h
    exact ⟨_, hfault, rfl⟩
  | @perform machine _ downstream request ih =>
    have hstep : (machine.perform downstream request).2.settings =
        (request.config?.map Configuration.settings).getD machine.settings := by
      rw [perform_eq]
      rfl
    rw [hstep]
    cases hconfig : request.config? with
    | none => exact ih
    | some config => exact ⟨config, (Request.config?_eq_some_iff.mp hconfig).2, rfl⟩
  | onto _ planner ih => exact ih

/-- In exact arithmetic lines are cut by a positive length. -/
theorem Reachable.exact_maxLineSegment_pos {machine : Machine ℝ σ} (h : machine.Reachable) :
    0 < machine.settings.maxLineSegment := by
  obtain ⟨config, hfault, hsettings⟩ := h.settings
  have hlength := ((Configuration.fault?_eq_none_iff config).mp hfault).1
  rw [hsettings]
  exact (exact_isPositive_iff _).mp hlength

end Machine

end Toolpath
