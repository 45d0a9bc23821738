import Toolpath.Geometry.Axis

/-!
# Waypoints and the blocks made of them

A move is cut into waypoints: points on the way, each with a rate. A waypoint that lies
far enough from the one before it becomes a block, which tells a planner where the motors
have to be and how far the tool travels.
-/

namespace Toolpath

/-- A point to be reached, in millimeters, at a rate in millimeters per second. -/
structure Waypoint (α : Type) where
  /-- The point. -/
  point : PerAxis α
  /-- Rate on the way to it. -/
  rate : α
  deriving DecidableEq, Repr

/-- One straight piece of motion as a planner takes it. -/
structure Block (α : Type) where
  /-- Absolute motor position at the end of the block. -/
  steps : PerAxis Int32
  /-- Rate in millimeters per minute. -/
  rate : α
  /-- Length of the block in millimeters. -/
  length : α
  /-- Vector from the start of the block to its end, in millimeters. -/
  displacement : PerAxis α
  deriving DecidableEq, Repr

end Toolpath
