import Toolpath.Move.Arc
import Toolpath.Quantity

/-!
# Modal settings

Some settings of a program stay in force until another one of their group takes over: the
way of moving, the plane of arcs, the unit of lengths, and what distances count from. A
program makes such a setting by its number.
-/

namespace Toolpath

variable {α : Type} [Scalar α]

/-- How the tool moves. -/
inductive MoveMode where
  /-- Straight at the seek rate. -/
  | seek
  /-- Straight at the feed rate. -/
  | feed
  /-- On an arc at the feed rate. -/
  | arc (turn : Turn)
  /-- Not at all. -/
  | still
  deriving DecidableEq, Repr

/-- Sense of the turn, for the modes that have one. -/
def MoveMode.turn? : MoveMode → Option Turn
  | .arc turn => some turn
  | .seek | .feed | .still => none

/-- What the coordinates of a program count from. -/
inductive DistanceMode where
  /-- From the origin. -/
  | absolute
  /-- From the position before the move. -/
  | relative
  deriving DecidableEq, Repr

/-- A setting that stays in force, with the group it belongs to. -/
inductive ModalSetting where
  /-- Way of moving. -/
  | move (mode : MoveMode)
  /-- Plane of arcs. -/
  | plane (plane : Plane)
  /-- Unit of lengths. -/
  | unit (unit : LengthUnit)
  /-- What coordinates count from. -/
  | distance (mode : DistanceMode)
  deriving DecidableEq, Repr

namespace ModalSetting

/-- The modal setting with an integer for its number. -/
def ofInt? : Int → Option ModalSetting
  | 0 => some (.move .seek)
  | 1 => some (.move .feed)
  | 2 => some (.move (.arc .clockwise))
  | 3 => some (.move (.arc .counterClockwise))
  | 17 => some (.plane .xy)
  | 18 => some (.plane .xz)
  | 19 => some (.plane .yz)
  | 20 => some (.unit .inch)
  | 21 => some (.unit .millimeter)
  | 90 => some (.distance .absolute)
  | 91 => some (.distance .relative)
  | _ => none

/-- The modal setting with a number. Only whole numbers make settings. -/
def ofNumber? (number : α) : Option ModalSetting := (Scalar.whole? number).bind ofInt?

end ModalSetting

end Toolpath
