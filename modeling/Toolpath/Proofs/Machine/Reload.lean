import Toolpath.Proofs.Machine.Chain

/-!
# Other configurations in the course of a run

A machine that takes over a configuration is the machine that the configuration makes, put where
the old one was and in its modes. What configurations it had before leaves no trace. A configuration
that cannot be used changes nothing, and the drive of a usable one has no effect.
-/

namespace Toolpath

variable {α σ : Type} [Scalar α]

namespace Machine

omit [Scalar α] in
/-- The machine at the positions and in the modes of another one. Its settings, rates, waiting time,
kinematics and planner stay. -/
def seated (machine other : Machine α σ) : Machine α σ where
  program := { other.program with
    feedRate := machine.program.feedRate, seekRate := machine.program.seekRate }
  settings := machine.settings
  dispatcher := { machine.dispatcher with last := other.dispatcher.last }

/-- A configuration with a fault is answered with the fault and changes nothing. -/
theorem adopt_of_fault {config : Configuration α} {fault : ConfigFault α}
    (h : config.fault? = some fault) (machine : Machine α σ) :
    machine.adopt config = (.error fault, machine) := by
  rw [adopt, h]

/-- With a usable configuration a machine becomes the new machine of the configuration and its own
kinematics, at its positions and in its modes. -/
theorem adopt_of_usable {machine fresh : Machine α σ} {config : Configuration α}
    (h : withKinematics config machine.dispatcher.kinematics machine.dispatcher.planner =
      .ok fresh) :
    machine.adopt config = (.ok (), fresh.seated machine) := by
  obtain ⟨hfault, rfl⟩ := withKinematics_eq_ok_iff.mp h
  rw [adopt, hfault]
  rfl

/-- A configuration before a usable one leaves no trace. -/
theorem adopt_adopt (machine : Machine α σ) (config : Configuration α) {later : Configuration α}
    (h : later.fault? = none) : (machine.adopt config).2.adopt later = machine.adopt later := by
  cases hfault : config.fault? with
  | some fault => rw [adopt_of_fault hfault]
  | none => simp only [adopt, hfault, h]

/-- The check of a configuration decides the reply to it. -/
theorem perform_adopt (downstream : Downstream α σ) (machine : Machine α σ)
    (config : Configuration α) :
    machine.perform downstream (.adopt config) =
      (.configured config.verdict, (machine.adopt config).2) := by
  rw [← adopt_verdict machine config]
  rfl

/-- The first configuration is taken over, and then the others. -/
theorem performAll_adopt_cons (downstream : Downstream α σ) (machine : Machine α σ)
    (config : Configuration α) (rest : List (Configuration α)) :
    machine.performAll downstream ((config :: rest).map .adopt) =
      let others := (machine.adopt config).2.performAll downstream (rest.map .adopt)
      (.configured config.verdict :: others.1, others.2) := by
  rw [List.map_cons, performAll, perform_adopt]

/-- Each configuration gets its own reply. -/
theorem performAll_adopt_replies (downstream : Downstream α σ) (machine : Machine α σ)
    (configs : List (Configuration α)) :
    (machine.performAll downstream (configs.map .adopt)).1 =
      configs.map fun config => .configured config.verdict := by
  induction configs generalizing machine with
  | nil => rfl
  | cons config rest ih =>
    have hrest := ih (machine.adopt config).2
    rw [performAll_adopt_cons, List.map_cons]
    exact congrArg _ hrest

/-- Configurations that cannot be used change nothing. -/
theorem performAll_adopt_of_faults (downstream : Downstream α σ) (machine : Machine α σ)
    {configs : List (Configuration α)} (h : ∀ config ∈ configs, config.fault? ≠ none) :
    (machine.performAll downstream (configs.map .adopt)).2 = machine := by
  induction configs with
  | nil => rfl
  | cons config rest ih =>
    obtain ⟨hfirst, hothers⟩ := List.forall_mem_cons.mp h
    obtain ⟨fault, hfault⟩ := Option.ne_none_iff_exists'.mp hfirst
    rw [performAll_adopt_cons, adopt_of_fault hfault]
    exact ih hothers

/-- Configurations before a usable one leave no trace. -/
theorem adopt_performAll_adopt (downstream : Downstream α σ) (machine : Machine α σ)
    (configs : List (Configuration α)) {later : Configuration α} (h : later.fault? = none) :
    (machine.performAll downstream (configs.map .adopt)).2.adopt later = machine.adopt later := by
  induction configs generalizing machine with
  | nil => rfl
  | cons config rest ih =>
    have hrest := ih (machine.adopt config).2
    rw [adopt_adopt machine config h] at hrest
    rw [performAll_adopt_cons]
    exact hrest

/-- Of some configurations the last usable one decides what becomes of a machine. -/
theorem performAll_adopt_eq (downstream : Downstream α σ) (machine : Machine α σ)
    (before : List (Configuration α)) {config : Configuration α} {after : List (Configuration α)}
    (husable : config.fault? = none) (hafter : ∀ other ∈ after, other.fault? ≠ none) :
    (machine.performAll downstream ((before ++ config :: after).map .adopt)).2 =
      (machine.adopt config).2 := by
  rw [List.map_append, performAll_append, performAll_adopt_cons,
    adopt_performAll_adopt downstream machine before husable]
  exact performAll_adopt_of_faults downstream _ hafter

/-- Requests change no kinematics. -/
theorem performAll_kinematics (downstream : Downstream α σ) (machine : Machine α σ)
    (requests : List (Request α)) :
    (machine.performAll downstream requests).2.dispatcher.kinematics =
      machine.dispatcher.kinematics := by
  induction requests generalizing machine with
  | nil => rfl
  | cons request rest ih =>
    have hrest := ih (machine.perform downstream request).2
    rw [perform_kinematics] at hrest
    exact hrest

/-- The drive of a usable configuration has no effect. -/
theorem adopt_withDrive (machine : Machine α σ) {config : Configuration α} {drive : DriveConfig α}
    (husable : config.fault? = none)
    (hdrive : ({ config with drive } : Configuration α).fault? = none) :
    machine.adopt { config with drive } = machine.adopt config := by
  simp only [adopt, husable, hdrive]
  rfl

/-- Taking over configurations is atomic and leaves no history. Whatever state a machine is in, it
replies to each of some configurations with what the check of that one comes to. If none can be used
it stays as it is. Otherwise the last usable one alone decides: the machine is the new machine of
this configuration and of the kinematics that it always had, put at its positions and in its modes,
and it goes on with any later requests as that one does. Another drive in this configuration changes
nothing. -/
theorem performAll_adopt (downstream : Downstream α σ) (machine : Machine α σ)
    (configs : List (Configuration α)) :
    let reload (configs : List (Configuration α)) : List (Reply α) × Machine α σ :=
      machine.performAll downstream (configs.map .adopt)
    let replies : List (Reply α) := configs.map fun config => .configured config.verdict
    (∀ requests, (machine.performAll downstream requests).2.dispatcher.kinematics =
      machine.dispatcher.kinematics) ∧
    (reload configs).1 = replies ∧
    ((∀ config ∈ configs, config.fault? ≠ none) → (reload configs).2 = machine) ∧
    ∀ before config after, configs = before ++ config :: after → config.fault? = none →
      (∀ other ∈ after, other.fault? ≠ none) →
      (reload configs).2 = (reload [config]).2 ∧
      (∀ drive, ({ config with drive } : Configuration α).fault? = none →
        (reload [{ config with drive }]).2 = (reload configs).2) ∧
      ∃ fresh : Machine α σ,
        withKinematics config machine.dispatcher.kinematics machine.dispatcher.planner =
          .ok fresh ∧
        (reload configs).2 = fresh.seated machine ∧
        ∀ later, machine.performAll downstream (configs.map .adopt ++ later) =
          let run := (fresh.seated machine).performAll downstream later
          (replies ++ run.1, run.2) := by
  intro reload replies
  have hreplies : (reload configs).1 = replies :=
    performAll_adopt_replies downstream machine configs
  refine ⟨performAll_kinematics downstream machine, hreplies,
    performAll_adopt_of_faults downstream machine, ?_⟩
  intro before config after hconfigs husable hafter
  have hlast : (reload configs).2 = (machine.adopt config).2 := by
    rw [hconfigs]
    exact performAll_adopt_eq downstream machine before husable hafter
  have hone (other : Configuration α) : (reload [other]).2 = (machine.adopt other).2 :=
    congrArg Prod.snd (performAll_adopt_cons downstream machine other [])
  obtain ⟨fresh, hfresh⟩ : ∃ fresh : Machine α σ,
      withKinematics config machine.dispatcher.kinematics machine.dispatcher.planner = .ok fresh :=
    ⟨_, withKinematics_eq_ok_iff.mpr ⟨husable, rfl⟩⟩
  have hseated : (reload configs).2 = fresh.seated machine := by
    rw [hlast, adopt_of_usable hfresh]
  refine ⟨hlast.trans (hone config).symm, fun drive hdrive => ?_, fresh, hfresh, hseated,
    fun later => ?_⟩
  · rw [hone, hlast, adopt_withDrive machine husable hdrive]
  · have happend := performAll_append downstream machine (configs.map .adopt) later
    rw [happend, ← hseated, ← hreplies]

/-- Without correction the standard configuration cannot be used. -/
theorem exact_withoutCorrection_fault? :
    ({ Configuration.standard with correctionInterval := 0 } : Configuration ℝ).fault? ≠ none := by
  intro h
  obtain ⟨-, -, -, -, hinterval, -⟩ := (Configuration.fault?_eq_none_iff _).mp h
  exact hinterval rfl

/-- A standard machine at another position that is brought a configuration with another waiting
time, and then one that cannot be used, waits as the first of them says and stays where it was. -/
theorem performAll_adopt_slower :
    let machine : Machine ℝ (List (Block ℝ)) := (standard []).setPosition (PerAxis.uniform 3)
    let slower : Configuration ℝ := { Configuration.standard with poll := 700 }
    let unusable : Configuration ℝ := { Configuration.standard with correctionInterval := 0 }
    let after := (machine.performAll .recorder [.adopt slower, .adopt unusable]).2
    slower.fault? = none ∧ unusable.fault? ≠ none ∧
    after.dispatcher.poll = 700 ∧ after.program.position = PerAxis.uniform 3 := by
  intro machine slower unusable after
  have husable : slower.fault? = none := Configuration.exact_standard_fault?
  have hunusable : unusable.fault? ≠ none := exact_withoutCorrection_fault?
  obtain ⟨-, -, -, hlast⟩ := performAll_adopt .recorder machine [slower, unusable]
  obtain ⟨-, -, fresh, hfresh, hseated, -⟩ := hlast [] slower [unusable] rfl husable
    (List.forall_mem_singleton.mpr hunusable)
  have hdispatcher := dispatcher_of_withKinematics hfresh
  have hpoll : (fresh.seated machine).dispatcher.poll = 700 := by
    rw [seated, hdispatcher]
    rfl
  have hposition : (fresh.seated machine).program.position = PerAxis.uniform 3 := rfl
  rw [← hseated] at hpoll hposition
  exact ⟨husable, hunusable, hpoll, hposition⟩

end Machine

end Toolpath
