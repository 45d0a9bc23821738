import Toolpath.Configuration.Basic
import Toolpath.Program.Instruction
import Toolpath.Program.ModalSetting

/-!
# State of a program

A program moves a commanded position and makes settings that stay in force. None of it
depends on what the machine has carried out so far.
-/

namespace Toolpath

variable {α : Type} [Scalar α]

/-- What the instructions of a program have set up. -/
structure ProgramState (α : Type) where
  /-- Commanded position, in millimeters; the machine may still be on its way. -/
  position : PerAxis α
  /-- Way of moving. -/
  mode : MoveMode
  /-- Unit of the lengths that a program gives. -/
  unit : LengthUnit
  /-- What the coordinates that a program gives count from. -/
  distance : DistanceMode
  /-- Plane of arcs. -/
  plane : Plane
  /-- Rate of feed moves and arcs, in millimeters per second. -/
  feedRate : α
  /-- Rate of seek moves, in millimeters per second. -/
  seekRate : α
  deriving DecidableEq, Repr

namespace ProgramState

/-- The state before the first instruction: at the origin, seeking, in absolute
millimeters. -/
def initial (settings : Settings α) : ProgramState α where
  position := PerAxis.uniform 0.0
  mode := .seek
  unit := .millimeter
  distance := .absolute
  plane := .xy
  feedRate := settings.feedRate
  seekRate := settings.seekRate

/-- Put a modal setting in force. -/
def put (state : ProgramState α) : ModalSetting → ProgramState α
  | .move mode => { state with mode }
  | .plane plane => { state with plane }
  | .unit unit => { state with unit }
  | .distance distance => { state with distance }

/-- Put the settings with some numbers in force, one after the other. Numbers that make no
modal setting are passed over. -/
def putAll (state : ProgramState α) (numbers : List α) : ProgramState α :=
  (numbers.filterMap ModalSetting.ofNumber?).foldl put state

/-- Put the modal settings of an instruction in force. -/
def withModes (state : ProgramState α) (instruction : Instruction α) : ProgramState α :=
  state.putAll (instruction.numbers 'G')

/-- Length in millimeters of a value in the unit of the program. -/
def inMillimeters (state : ProgramState α) (value : α) : α := state.unit.inMillimeters value

/-- Coordinate that an instruction leads to on one axis. -/
def targetOn (state : ProgramState α) (instruction : Instruction α) (axis : Axis) : α :=
  match instruction.number? axis.letter with
  | none => state.position.get axis
  | some value =>
    match state.distance with
    | .absolute => state.inMillimeters value
    | .relative => state.position.get axis + state.inMillimeters value

/-- Point that an instruction leads to. An axis without a word keeps its coordinate. -/
def target (state : ProgramState α) (instruction : Instruction α) : PerAxis α :=
  PerAxis.ofFn (state.targetOn instruction)

/-- Offset of an arc's center on one axis, zero without a word. -/
def centerOffsetOn (state : ProgramState α) (instruction : Instruction α) (axis : Axis) : α :=
  match instruction.number? axis.centerLetter with
  | none => 0.0
  | some value => state.inMillimeters value

/-- Offset of an arc's center from the position, whatever coordinates count from. -/
def centerOffset (state : ProgramState α) (instruction : Instruction α) : PerAxis α :=
  PerAxis.ofFn (state.centerOffsetOn instruction)

/-- Set a rate: that of seek moves while seeking, that of feed moves in any other mode. -/
def setRate (state : ProgramState α) (rate : α) : ProgramState α :=
  match state.mode with
  | .seek => { state with seekRate := rate }
  | _ => { state with feedRate := rate }

/-- Set the rate that an instruction gives per minute, if it gives one. -/
def withRate (state : ProgramState α) (instruction : Instruction α) : ProgramState α :=
  match instruction.number? 'F' with
  | none => state
  | some value => state.setRate (state.inMillimeters value / secondsPerMinute)

end ProgramState

end Toolpath
