import Toolpath.Machine.Dispatcher
import Toolpath.Move.ArcWalk
import Toolpath.Move.LineWalk
import Toolpath.Program.State

/-!
# Machines

A machine carries out the instructions of a program one after the other: it puts their modal
settings in force, finds out where they lead, cuts the move into waypoints and dispatches
these. The commanded position follows every instruction, whether or not the planner took its
blocks.
-/

namespace Toolpath

variable {α σ : Type} [Scalar α]

/-- A machine that carries out a program. -/
structure Machine (α σ : Type) where
  /-- What the instructions so far have set up. -/
  program : ProgramState α
  /-- Settings of the configuration in use. -/
  settings : Settings α
  /-- The way from waypoints to blocks. -/
  dispatcher : Dispatcher α σ

namespace Machine

/-- A machine at the origin, with a usable configuration and kinematics of its own. -/
def withKinematics (config : Configuration α) (kinematics : Kinematics α) (planner : σ) :
    Except (ConfigFault α) (Machine α σ) :=
  match config.fault? with
  | some fault => .error fault
  | none =>
    let settings := config.settings
    .ok ⟨.initial settings, settings,
      ⟨kinematics, settings.poll, PerAxis.uniform 0.0, planner⟩⟩

/-- A machine at the origin, with a usable configuration and the kinematics it names. -/
def ofConfiguration (config : Configuration α) (planner : σ) :
    Except (ConfigFault α) (Machine α σ) :=
  withKinematics config config.drive.kinematics planner

/-- Take over another usable configuration: its settings, rates and waiting time. Position,
modes and kinematics stay; a configuration with a fault changes nothing. -/
def adopt (machine : Machine α σ) (config : Configuration α) :
    Except (ConfigFault α) Unit × Machine α σ :=
  match config.fault? with
  | some fault => (.error fault, machine)
  | none =>
    let settings := config.settings
    (.ok (), {
      program := { machine.program with
        feedRate := settings.feedRate, seekRate := settings.seekRate }
      settings := settings
      dispatcher := { machine.dispatcher with poll := settings.poll } })

/-- Dispatch everything that a supply of waypoints holds. -/
def dispatchAll {S : Type} [WaypointSupply S α] (downstream : Downstream α σ) (supply : S)
    (machine : Machine α σ) : Except (Fault α) Tally × Machine α σ :=
  let (result, dispatcher) := machine.dispatcher.dispatchAll downstream supply
  (result, { machine with dispatcher })

/-- Move straight from the commanded position to a target. The position stays. -/
def lineTo (downstream : Downstream α σ) (machine : Machine α σ) (target : PerAxis α)
    (rate : α) : Except (Fault α) Tally × Machine α σ :=
  machine.dispatchAll downstream
    (LineWalk.cut machine.program.position target rate machine.settings.maxLineSegment)

/-- Move on an arc from the commanded position to a target, at the feed rate and with a
given radius. The position stays. -/
def arcTo (downstream : Downstream α σ) (machine : Machine α σ) (target offset : PerAxis α)
    (radius : α) (turn : Turn) : Except (Fault α) Tally × Machine α σ :=
  let arc : Arc α := ⟨machine.program.position, target, offset, radius, turn,
    machine.program.plane⟩
  machine.dispatchAll downstream
    (ArcWalk.cut arc machine.program.feedRate machine.settings.maxArcSegment
      machine.settings.correctionInterval)

/-- Move to a target in the mode that is in force. The radius of an arc is the length of the
offset in the plane. -/
def move (downstream : Downstream α σ) (machine : Machine α σ) (target offset : PerAxis α) :
    Except (Fault α) Tally × Machine α σ :=
  match machine.program.mode with
  | .still => (.ok .none, machine)
  | .seek => machine.lineTo downstream target machine.program.seekRate
  | .feed => machine.lineTo downstream target machine.program.feedRate
  | .arc turn =>
    machine.arcTo downstream target offset (machine.program.plane.planar offset).norm turn

/-- Carry out an instruction. Its modal settings govern all of its words; its rate counts
from this instruction on; its target becomes the commanded position in any case. -/
def obey (downstream : Downstream α σ) (machine : Machine α σ) (instruction : Instruction α) :
    Except (Fault α) Tally × Machine α σ :=
  let program := machine.program.withModes instruction
  let target := program.target instruction
  let (result, machine) :=
    { machine with program := program.withRate instruction }.move downstream target
      (program.centerOffset instruction)
  (result, { machine with program := { machine.program with position := target } })

/-- Declare where the machine is. -/
def setPosition (machine : Machine α σ) (position : PerAxis α) : Machine α σ :=
  { machine with
    program := { machine.program with position }
    dispatcher := { machine.dispatcher with last := position } }

/-- Set the way of moving. -/
def setMode (machine : Machine α σ) (mode : MoveMode) : Machine α σ :=
  { machine with program := { machine.program with mode } }

end Machine

end Toolpath
