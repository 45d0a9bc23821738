import Toolpath.Fault
import Toolpath.Geometry.Axis
import Toolpath.Quantity

/-!
# Machine configuration

A configuration names the default rates, how finely lines and arcs are cut into segments,
how long to wait for a full planner, and the drive that turns positions into motor steps. It
is usable when every length, rate and ratio is positive and arcs are corrected at
least every segment; the first condition that fails names the fault.
-/

namespace Toolpath

/-- Kinds of drives. -/
inductive DriveKind where
  /-- Each axis has its own motor. -/
  | cartesian
  deriving DecidableEq, Repr

/-- What is configured about the drive. -/
structure DriveConfig (α : Type) where
  /-- Kind of the drive. -/
  kind : DriveKind
  /-- Motor steps per millimeter on each axis. -/
  stepsPerMillimeter : PerAxis α
  deriving DecidableEq, Repr

/-- Everything that is configured about a machine. -/
structure Configuration (α : Type) where
  /-- Rate of feed moves until a program sets one. -/
  feedRate : Rate α
  /-- Rate of seek moves until a program sets one. -/
  seekRate : Rate α
  /-- Greatest length of a line segment. -/
  lineSegmentLength : Length α
  /-- Greatest length of an arc segment. -/
  arcSegmentLength : Length α
  /-- Arc segments between two exact positions. -/
  correctionInterval : UInt8
  /-- Microseconds between two offers of a block to a full planner. -/
  poll : UInt32
  /-- Drive of the machine. -/
  drive : DriveConfig α
  deriving DecidableEq, Repr

variable {α : Type} [Scalar α]

/-- A Cartesian machine with 80 steps per millimeter in the plane and 1600 across it. -/
def DriveConfig.standard : DriveConfig α := ⟨.cartesian, ⟨80.0, 80.0, 1600.0⟩⟩

namespace Configuration

/-- Interval used when none is configured. -/
def standardInterval : UInt8 := 25

/-- Waiting time used when none is configured. -/
def standardPoll : UInt32 := 100

/-- The configuration of a machine about which nothing is said. -/
def standard : Configuration α where
  feedRate := ⟨4000.0⟩
  seekRate := ⟨4000.0⟩
  lineSegmentLength := ⟨5.0⟩
  arcSegmentLength := ⟨0.5⟩
  correctionInterval := standardInterval
  poll := standardPoll
  drive := DriveConfig.standard

/-- First of the steps per millimeter that is not positive, in the order of the axes. -/
def ratioFault? (ratios : PerAxis α) : Option (ConfigFault α) :=
  (Axis.all.find? fun axis => !Scalar.isPositive (ratios.get axis)).map fun axis =>
    .stepsPerMillimeter axis.index (ratios.get axis)

/-- First condition of a usable configuration that fails: line length, arc length, feed
rate, seek rate, correction interval, then the steps per millimeter. -/
def fault? (config : Configuration α) : Option (ConfigFault α) :=
  if !config.lineSegmentLength.isPositive then
    some (.lineSegmentLength config.lineSegmentLength.value)
  else if !config.arcSegmentLength.isPositive then
    some (.arcSegmentLength config.arcSegmentLength.value)
  else if !Scalar.isPositive config.feedRate.value then
    some (.feedRate config.feedRate.value)
  else if !Scalar.isPositive config.seekRate.value then
    some (.seekRate config.seekRate.value)
  else if config.correctionInterval = 0 then
    some (.correctionInterval config.correctionInterval)
  else
    ratioFault? config.drive.stepsPerMillimeter

end Configuration

/-- What the running machine needs of a configuration, with rates per second. -/
structure Settings (α : Type) where
  /-- Greatest length of a line segment, in millimeters. -/
  maxLineSegment : α
  /-- Greatest length of an arc segment, in millimeters. -/
  maxArcSegment : α
  /-- Arc segments between two exact positions. -/
  correctionInterval : UInt8
  /-- Microseconds between two offers of a block to a full planner. -/
  poll : UInt32
  /-- Default feed rate, in millimeters per second. -/
  feedRate : α
  /-- Default seek rate, in millimeters per second. -/
  seekRate : α
  deriving DecidableEq, Repr

/-- Settings of a configuration. -/
def Configuration.settings (config : Configuration α) : Settings α where
  maxLineSegment := config.lineSegmentLength.value
  maxArcSegment := config.arcSegmentLength.value
  correctionInterval := config.correctionInterval
  poll := config.poll
  feedRate := config.feedRate.perSecond
  seekRate := config.seekRate.perSecond

end Toolpath
