import Toolpath.Machine.Request
import Toolpath.Proofs.Machine.Dispatching
import Toolpath.Proofs.Program.Modes

/-!
# Requests as plans and deliveries

What a request asks of the planner and what it makes of the program is settled before the
planner is asked anything: the course of waypoints, the legs along it and the state of the
program afterwards. `perform_eq` says that performing a request is delivering the blocks of
these legs. Only the end of the last leg that was taken, the reply and the planner itself
depend on what the planner said.
-/

namespace Toolpath

variable {α σ τ : Type} [Scalar α]

namespace ProgramState

/-- Waypoints of a straight move from the commanded position. -/
def lineCourse (program : ProgramState α) (settings : Settings α) (target : PerAxis α)
    (rate : α) : List (Waypoint α) :=
  WaypointSupply.toList (LineWalk.cut program.position target rate settings.maxLineSegment)

/-- Waypoints of an arc from the commanded position, at the feed rate. -/
def arcCourse (program : ProgramState α) (settings : Settings α) (target offset : PerAxis α)
    (radius : α) (turn : Turn) : List (Waypoint α) :=
  WaypointSupply.toList
    (ArcWalk.cut ⟨program.position, target, offset, radius, turn, program.plane⟩
      program.feedRate settings.maxArcSegment settings.correctionInterval)

/-- Waypoints of a move in the mode that is in force. -/
def course (program : ProgramState α) (settings : Settings α) (target offset : PerAxis α) :
    List (Waypoint α) :=
  match program.mode with
  | .still => []
  | .seek => program.lineCourse settings target program.seekRate
  | .feed => program.lineCourse settings target program.feedRate
  | .arc turn =>
    program.arcCourse settings target offset (program.plane.planar offset).norm turn

/-- The state of the program after an instruction, however its move ended. -/
def obeyed (program : ProgramState α) (instruction : Instruction α) : ProgramState α :=
  let program := program.withModes instruction
  { program.withRate instruction with position := program.target instruction }

/-- The state of the program after a request. -/
def after (program : ProgramState α) : Request α → ProgramState α
  | .obey instruction => program.obeyed instruction
  | .line _ _ | .arc _ _ _ _ => program
  | .setPosition position => { program with position }
  | .setMode mode => { program with mode }
  | .adopt config =>
    match config.fault? with
    | some _ => program
    | none =>
      { program with
        feedRate := config.settings.feedRate, seekRate := config.settings.seekRate }

end ProgramState

/-- The configuration that a request puts in use: a usable one that it brings. -/
def Request.config? : Request α → Option (Configuration α)
  | .adopt config =>
    match config.fault? with
    | some _ => none
    | none => some config
  | _ => none

/-- A request puts a configuration in use exactly when it brings it and this has no fault. -/
theorem Request.config?_eq_some_iff {request : Request α} {config : Configuration α} :
    request.config? = some config ↔ request = .adopt config ∧ config.fault? = none := by
  cases request with
  | adopt brought =>
    rw [config?, Request.adopt.injEq]
    cases hfault : brought.fault? with
    | some fault =>
      refine ⟨nofun, fun ⟨hsame, hnone⟩ => ?_⟩
      rw [hsame, hnone] at hfault
      cases hfault
    | none =>
      rw [Option.some.injEq]
      refine ⟨fun hsame => ⟨hsame, ?_⟩, And.left⟩
      rw [← hsame, hfault]
  | _ => exact ⟨nofun, nofun⟩

/-- The position that a request declares, if it declares one. -/
def Request.declared? : Request α → Option (PerAxis α)
  | .setPosition position => some position
  | _ => none

namespace Machine

/-- The same machine with something else downstream. -/
def onto (machine : Machine α σ) (planner : τ) : Machine α τ :=
  ⟨machine.program, machine.settings, machine.dispatcher.kinematics, machine.dispatcher.poll,
    machine.dispatcher.last, planner⟩

/-- Waypoints that a request leads through. -/
def course (machine : Machine α σ) : Request α → List (Waypoint α)
  | .obey instruction =>
    let program := machine.program.withModes instruction
    (program.withRate instruction).course machine.settings (program.target instruction)
      (program.centerOffset instruction)
  | .line target rate => machine.program.lineCourse machine.settings target rate
  | .arc target offset radius turn =>
    machine.program.arcCourse machine.settings target offset radius turn
  | .setPosition _ | .setMode _ | .adopt _ => []

/-- Legs of a request. -/
def legs (machine : Machine α σ) (request : Request α) : List (Leg α) :=
  machine.dispatcher.legs (machine.course request)

/-- Blocks of a request. -/
def blocks (machine : Machine α σ) (request : Request α) : List (Block α) :=
  machine.dispatcher.blocks (machine.course request)

/-- Tally of a request whose blocks are all taken. -/
def tally (machine : Machine α σ) (request : Request α) : Tally :=
  ⟨(machine.course request).length, (machine.legs request).length⟩

/-- The reply to a request whose blocks were delivered, with a fault or without. -/
def reply (machine : Machine α σ) (fault? : Option (Fault α)) (request : Request α) : Reply α :=
  match request with
  | .obey _ | .line _ _ | .arc _ _ _ _ => .moved (resultUnless fault? (machine.tally request))
  | .setPosition _ | .setMode _ => .done
  | .adopt config =>
    .configured
      (match config.fault? with
      | some fault => .error fault
      | none => .ok ())

/-- End of the last block, after a request of whose blocks a number was taken. -/
def lastAfter (machine : Machine α σ) (taken : Nat) (request : Request α) : PerAxis α :=
  match request.declared? with
  | some position => position
  | none => machine.dispatcher.lastAfter (machine.course request) taken

/-- The machine after a request of whose blocks a number was taken, with what is then
downstream. -/
def after (machine : Machine α σ) (taken : Nat) (planner : τ) (request : Request α) :
    Machine α τ where
  program := machine.program.after request
  settings := (request.config?.map Configuration.settings).getD machine.settings
  dispatcher := {
    kinematics := machine.dispatcher.kinematics
    poll := (request.config?.map Configuration.poll).getD machine.dispatcher.poll
    last := machine.lastAfter taken request
    planner }

/-- Only moves have blocks. -/
theorem move_of_blocks {machine : Machine α σ} {request : Request α}
    (h : machine.blocks request ≠ []) :
    (∃ instruction, request = .obey instruction) ∨ (∃ target rate, request = .line target rate) ∨
      ∃ target offset radius turn, request = .arc target offset radius turn := by
  cases request with
  | obey instruction => exact .inl ⟨instruction, rfl⟩
  | line target rate => exact .inr (.inl ⟨target, rate, rfl⟩)
  | arc target offset radius turn => exact .inr (.inr ⟨target, offset, radius, turn, rfl⟩)
  | setPosition position => exact absurd rfl h
  | setMode mode => exact absurd rfl h
  | adopt config => exact absurd rfl h

/-- A request that declares a position has no blocks. -/
theorem declared?_of_blocks {machine : Machine α σ} {request : Request α}
    (h : machine.blocks request ≠ []) : request.declared? = none := by
  obtain ⟨_, rfl⟩ | ⟨_, _, rfl⟩ | ⟨_, _, _, _, rfl⟩ := move_of_blocks h <;> rfl

/-- Dispatching a supply is dispatching the list of what it holds. -/
theorem dispatchAll_eq_deliver {S : Type} [WaypointSupply S α] (downstream : Downstream α σ)
    (supply : S) (machine : Machine α σ) :
    machine.dispatchAll downstream supply =
      let waypoints := WaypointSupply.toList supply
      let delivery := downstream.deliver machine.dispatcher.poll
        (machine.dispatcher.blocks waypoints) machine.dispatcher.planner
      (resultUnless delivery.fault?
          ⟨waypoints.length, (machine.dispatcher.legs waypoints).length⟩,
        { machine with dispatcher := {
          machine.dispatcher with
          last := machine.dispatcher.lastAfter waypoints delivery.taken
          planner := delivery.planner } }) := by
  rw [dispatchAll, Dispatcher.dispatchAll_eq_dispatchList, Dispatcher.dispatchList_eq_deliver]
  simp only [Tally.none, Nat.zero_add]

/-- A move in the mode in force delivers the blocks of its course. -/
theorem move_eq_deliver (downstream : Downstream α σ) (machine : Machine α σ)
    (target offset : PerAxis α) :
    machine.move downstream target offset =
      let waypoints := machine.program.course machine.settings target offset
      let delivery := downstream.deliver machine.dispatcher.poll
        (machine.dispatcher.blocks waypoints) machine.dispatcher.planner
      (resultUnless delivery.fault?
          ⟨waypoints.length, (machine.dispatcher.legs waypoints).length⟩,
        { machine with dispatcher := {
          machine.dispatcher with
          last := machine.dispatcher.lastAfter waypoints delivery.taken
          planner := delivery.planner } }) := by
  unfold move ProgramState.course
  cases machine.program.mode with
  | still => rfl
  | seek => exact dispatchAll_eq_deliver downstream _ machine
  | feed => exact dispatchAll_eq_deliver downstream _ machine
  | arc turn => exact dispatchAll_eq_deliver downstream _ machine

/-- Carrying out an instruction is delivering its blocks. -/
theorem obey_eq_deliver (downstream : Downstream α σ) (machine : Machine α σ)
    (instruction : Instruction α) :
    machine.obey downstream instruction =
      let request : Request α := .obey instruction
      let delivery := downstream.deliver machine.dispatcher.poll (machine.blocks request)
        machine.dispatcher.planner
      (resultUnless delivery.fault? (machine.tally request),
        machine.after delivery.taken delivery.planner request) := by
  rw [obey]
  dsimp only
  rw [move_eq_deliver]
  rfl

/-- Machines with the same dispatcher carry out instructions that lead through the same waypoints
alike: they reply the same and hand on the same. -/
theorem obey_of_course_eq (downstream : Downstream α σ) {machine other : Machine α σ}
    {instruction translated : Instruction α} (hdispatcher : other.dispatcher = machine.dispatcher)
    (hcourse : other.course (.obey translated) = machine.course (.obey instruction)) :
    other.obey downstream translated =
      ((machine.obey downstream instruction).1,
        ⟨other.program.obeyed translated, other.settings,
          (machine.obey downstream instruction).2.dispatcher⟩) := by
  simp only [obey_eq_deliver, blocks, legs, tally, after, lastAfter, hcourse, hdispatcher,
    ProgramState.after, Request.declared?, Request.config?]
  rfl

/-- An instruction makes of the program what it says, however its move ended. -/
theorem obey_program (downstream : Downstream α σ) (machine : Machine α σ)
    (instruction : Instruction α) :
    (machine.obey downstream instruction).2.program = machine.program.obeyed instruction := by
  rw [obey_eq_deliver]
  rfl

/-- The mode after an instruction is the one that its modal settings put in force. -/
theorem obey_mode (downstream : Downstream α σ) (machine : Machine α σ)
    (instruction : Instruction α) :
    (machine.obey downstream instruction).2.program.mode =
      (machine.program.withModes instruction).mode := by
  obtain ⟨feedRate, seekRate, hrate⟩ :=
    (machine.program.withModes instruction).withRate_eq instruction
  rw [obey_program]
  simp only [ProgramState.obeyed, hrate]

/-- The commanded position after an instruction is its target, however its move ended. -/
theorem obey_position (downstream : Downstream α σ) (machine : Machine α σ)
    (instruction : Instruction α) :
    (machine.obey downstream instruction).2.program.position =
      (machine.program.withModes instruction).target instruction := by
  rw [obey_program]
  rfl

/-- Performing a request is delivering its blocks. -/
theorem perform_eq (downstream : Downstream α σ) (machine : Machine α σ)
    (request : Request α) :
    machine.perform downstream request =
      let delivery := downstream.deliver machine.dispatcher.poll (machine.blocks request)
        machine.dispatcher.planner
      (machine.reply delivery.fault? request,
        machine.after delivery.taken delivery.planner request) := by
  cases request with
  | obey instruction =>
    rw [perform]
    dsimp only
    rw [obey_eq_deliver]
    rfl
  | line target rate =>
    simp only [perform, lineTo]
    rw [dispatchAll_eq_deliver]
    rfl
  | arc target offset radius turn =>
    simp only [perform, arcTo]
    rw [dispatchAll_eq_deliver]
    rfl
  | setPosition position => rfl
  | setMode mode => rfl
  | adopt config =>
    simp only [perform, adopt, reply, after, ProgramState.after, Request.config?]
    cases config.fault? with
    | some fault => rfl
    | none => rfl

/-- Only a move whose blocks are delivered without a fault replies that it ended well. -/
theorem reply_eq_moved_ok {machine : Machine α σ} {fault? : Option (Fault α)} {request : Request α}
    {tally : Tally} (h : machine.reply fault? request = .moved (.ok tally)) :
    fault? = none ∧ tally = machine.tally request ∧ request.declared? = none := by
  have hresult (hok : resultUnless fault? (machine.tally request) = .ok tally) :
      fault? = none ∧ tally = machine.tally request := by
    cases fault? with
    | none => exact ⟨rfl, (Except.ok.inj hok).symm⟩
    | some fault => cases hok
  cases request with
  | obey instruction =>
    obtain ⟨hnone, htally⟩ := hresult (Reply.moved.inj h)
    exact ⟨hnone, htally, rfl⟩
  | line target rate =>
    obtain ⟨hnone, htally⟩ := hresult (Reply.moved.inj h)
    exact ⟨hnone, htally, rfl⟩
  | arc target offset radius turn =>
    obtain ⟨hnone, htally⟩ := hresult (Reply.moved.inj h)
    exact ⟨hnone, htally, rfl⟩
  | setPosition position => cases h
  | setMode mode => cases h
  | adopt config => cases h

/-- A move that ends well has all its blocks taken, and the tool is last sent where its legs lead.
-/
theorem perform_of_ok {downstream : Downstream α σ} {machine : Machine α σ} {request : Request α}
    {tally : Tally} (h : (machine.perform downstream request).1 = .moved (.ok tally)) :
    tally = machine.tally request ∧
      (downstream.deliver machine.dispatcher.poll (machine.blocks request)
        machine.dispatcher.planner).taken = (machine.blocks request).length ∧
      (machine.perform downstream request).2.dispatcher.last =
        Leg.finish machine.dispatcher.last (machine.legs request) := by
  rw [perform_eq] at h ⊢
  obtain ⟨hfault, htally, hdeclared⟩ := reply_eq_moved_ok h
  have htaken := Downstream.deliver_taken_of_no_fault hfault
  have hlength : (machine.blocks request).length = (machine.legs request).length :=
    List.length_map _
  refine ⟨htally, htaken, ?_⟩
  simp only [after, lastAfter, hdeclared, Dispatcher.lastAfter, htaken, hlength]
  exact congrArg (Leg.finish machine.dispatcher.last) List.take_length

/-- An instruction that ends well leaves all its legs behind. -/
theorem obey_of_ok {downstream : Downstream α σ} {machine : Machine α σ}
    {instruction : Instruction α} {tally : Tally}
    (h : (machine.obey downstream instruction).1 = .ok tally) :
    tally = machine.tally (.obey instruction) ∧
      (machine.obey downstream instruction).2.dispatcher.last =
        Leg.finish machine.dispatcher.last (machine.legs (.obey instruction)) := by
  have hreply : (machine.perform downstream (.obey instruction)).1 = .moved (.ok tally) :=
    congrArg Reply.moved h
  obtain ⟨htally, -, hlast⟩ := perform_of_ok hreply
  exact ⟨htally, hlast⟩

end Machine

end Toolpath
