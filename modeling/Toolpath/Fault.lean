import Toolpath.Text.Bounded
import Toolpath.Binary64.Text

/-!
# Faults

A machine reports two kinds of faults: its configuration cannot be used, or the planner
refuses a block for good. Each fault is a cause with the values that show it, and one
function writes the message. A move can also end because a block was held back for longer
than the caller was willing to wait; neither part is to blame for that.
-/

namespace Toolpath

/-- Why a configuration cannot be used. -/
inductive ConfigFault (α : Type) where
  /-- The text is not a well-formed document. -/
  | malformed
  /-- The document does not fit the schema; the text says where. -/
  | misfit (detail : BoundedText 128)
  /-- The file cannot be read; the text says why. -/
  | unreadable (detail : BoundedText 128)
  /-- Greatest length of a line segment not positive. -/
  | lineSegmentLength (value : α)
  /-- Greatest length of an arc segment not positive. -/
  | arcSegmentLength (value : α)
  /-- Default feed rate not positive. -/
  | feedRate (value : α)
  /-- Default seek rate not positive. -/
  | seekRate (value : α)
  /-- No arc segment between corrections. -/
  | correctionInterval (value : UInt8)
  /-- Motor steps per millimeter not positive on the axis with the given index. -/
  | stepsPerMillimeter (axis : Nat) (value : α)

/-- Why a planner refuses a block for good. -/
inductive PlannerFault where
  /-- The block is not acceptable; the text says why. -/
  | rejected (reason : BoundedText 64)
  /-- The planner is halted. -/
  | halted

/-- Why a move did not finish. -/
inductive Fault (α : Type) where
  /-- The configuration cannot be used. -/
  | config (cause : ConfigFault α)
  /-- The planner refused a block for good. -/
  | planner (cause : PlannerFault)
  /-- The planner stayed full for longer than the caller's patience. -/
  | outOfPatience

namespace ConfigFault

/-- Message of a configuration fault. -/
def message : ConfigFault Float → String
  | malformed => "Parse error: "
  | misfit detail => "Parse error: " ++ detail.text
  | unreadable detail => "I/O error: " ++ detail.text
  | lineSegmentLength value =>
    "Invalid mm_per_line_segment: " ++ Binary64.plainText value ++ ". Must be > 0"
  | arcSegmentLength value =>
    "Invalid mm_per_arc_segment: " ++ Binary64.plainText value ++ ". Must be > 0"
  | feedRate value =>
    "Invalid default feed rate: " ++ Binary64.plainText value ++ ". Must be > 0"
  | seekRate value =>
    "Invalid default seek rate: " ++ Binary64.plainText value ++ ". Must be > 0"
  | correctionInterval value =>
    "Invalid arc correction interval: " ++ Nat.repr value.toNat ++ ". Must be >= 1"
  | stepsPerMillimeter axis value =>
    "Invalid steps per mm on axis " ++ Nat.repr axis ++ ": " ++ Binary64.plainText value
      ++ ". Must be > 0"

end ConfigFault

namespace PlannerFault

/-- Message of a planner fault. -/
def message : PlannerFault → String
  | rejected reason => "Block rejected: " ++ reason.text
  | halted => "Planner is halted"

end PlannerFault

namespace Fault

/-- Message of a fault, with the part that reports it in front. -/
def message : Fault Float → String
  | config cause => "Configuration error: " ++ cause.message
  | planner cause => "Planner error: " ++ cause.message
  | outOfPatience => "Planner stayed full"

end Fault

end Toolpath
