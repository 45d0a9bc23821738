import Toolpath.Geometry.Vector
import Toolpath.Machine.Kinematics
import Toolpath.Move.Supply
import Toolpath.Planner.Downstream

/-!
# From waypoints to blocks

The dispatcher turns waypoints into blocks. A waypoint nearer than the least move to the
last one handed on is skipped, so that what it would have added is carried over to the
next. A block is offered until the planner takes it; a waypoint counts as handed on only
then.
-/

namespace Toolpath

variable {α σ : Type} [Scalar α]

/-- Moves shorter than this many millimeters are not worth a block. -/
def leastMove : α := 0.001

/-- State of the way from waypoints to blocks. -/
structure Dispatcher (α σ : Type) where
  /-- Where the motors have to be for a point. -/
  kinematics : Kinematics α
  /-- Microseconds between two offers of a block to a full planner. -/
  poll : UInt32
  /-- End of the last block that was taken. -/
  last : PerAxis α
  /-- State of what lies downstream. -/
  planner : σ

/-- What a move amounted to. -/
structure Tally where
  /-- Waypoints of the move. -/
  waypoints : Nat
  /-- Waypoints that became blocks. -/
  blocks : Nat
  deriving DecidableEq, Repr

namespace Tally

/-- Nothing was to be done. -/
def none : Tally := ⟨0, 0⟩

/-- Waypoints that were too near to become blocks. -/
def skipped (tally : Tally) : Nat := tally.waypoints - tally.blocks

/-- Count one more waypoint. -/
def count (tally : Tally) (isBlock : Bool) : Tally :=
  ⟨tally.waypoints + 1, if isBlock then tally.blocks + 1 else tally.blocks⟩

end Tally

namespace Dispatcher

/-- Vector from the last waypoint handed on to another one. -/
def vectorTo (dispatcher : Dispatcher α σ) (waypoint : Waypoint α) : PerAxis α :=
  dispatcher.last.vectorTo waypoint.point

/-- Block of a waypoint, its rate taken to millimeters per minute. -/
def block (dispatcher : Dispatcher α σ) (waypoint : Waypoint α) : Block α where
  steps := dispatcher.kinematics.steps waypoint.point
  rate := waypoint.rate * secondsPerMinute
  length := (dispatcher.vectorTo waypoint).norm
  displacement := dispatcher.vectorTo waypoint

/-- Hand one waypoint on. The result says whether it became a block; a planner that
refuses it for good leaves the last waypoint where it was. -/
def dispatch (downstream : Downstream α σ) (dispatcher : Dispatcher α σ)
    (waypoint : Waypoint α) : Except (Fault α) Bool × Dispatcher α σ :=
  let block := dispatcher.block waypoint
  if block.length < leastMove then (.ok false, dispatcher)
  else
    match downstream.submit dispatcher.poll block dispatcher.planner with
    | (.ok (), planner) =>
      (.ok true, { dispatcher with last := waypoint.point, planner })
    | (.error fault, planner) => (.error fault, { dispatcher with planner })

/-- Hand on the waypoints of a supply, at most the given number, and stop at the first
fault. -/
def dispatchWithin {S : Type} [WaypointSupply S α] (downstream : Downstream α σ) :
    Nat → S → Tally → Dispatcher α σ → Except (Fault α) Tally × Dispatcher α σ
  | 0, _, tally, dispatcher => (.ok tally, dispatcher)
  | count + 1, supply, tally, dispatcher =>
    match WaypointSupply.next supply with
    | (none, _) => (.ok tally, dispatcher)
    | (some waypoint, supply) =>
      match dispatcher.dispatch downstream waypoint with
      | (.ok isBlock, dispatcher) =>
        dispatchWithin downstream count supply (tally.count isBlock) dispatcher
      | (.error fault, dispatcher) => (.error fault, dispatcher)

/-- Hand on everything that a supply holds. -/
def dispatchAll {S : Type} [WaypointSupply S α] (downstream : Downstream α σ) (supply : S)
    (dispatcher : Dispatcher α σ) : Except (Fault α) Tally × Dispatcher α σ :=
  dispatcher.dispatchWithin downstream (WaypointSupply.remaining supply) supply .none

/-- Hand on a list of waypoints and stop at the first fault. -/
def dispatchList (downstream : Downstream α σ) :
    List (Waypoint α) → Tally → Dispatcher α σ → Except (Fault α) Tally × Dispatcher α σ
  | [], tally, dispatcher => (.ok tally, dispatcher)
  | waypoint :: rest, tally, dispatcher =>
    match dispatcher.dispatch downstream waypoint with
    | (.ok isBlock, dispatcher) => dispatchList downstream rest (tally.count isBlock) dispatcher
    | (.error fault, dispatcher) => (.error fault, dispatcher)

/-- Asking a supply for waypoints one at a time hands on its list. -/
theorem dispatchWithin_eq_dispatchList {S : Type} [WaypointSupply S α]
    (downstream : Downstream α σ) (count : Nat) (supply : S) (tally : Tally)
    (dispatcher : Dispatcher α σ) :
    dispatcher.dispatchWithin downstream count supply tally =
      dispatcher.dispatchList downstream (WaypointSupply.take count supply).1 tally := by
  induction count generalizing supply tally dispatcher with
  | zero => rfl
  | succ count ih =>
    simp only [dispatchWithin, WaypointSupply.take]
    cases hn : WaypointSupply.next supply with
    | mk handed rest =>
      cases handed with
      | none => rfl
      | some waypoint =>
        simp only [dispatchList]
        cases he : dispatcher.dispatch downstream waypoint with
        | mk result after =>
          cases result with
          | ok isBlock => exact ih rest (tally.count isBlock) after
          | error fault => rfl

/-- Handing on a supply is handing on its list. -/
theorem dispatchAll_eq_dispatchList {S : Type} [WaypointSupply S α] (downstream : Downstream α σ)
    (supply : S) (dispatcher : Dispatcher α σ) :
    dispatcher.dispatchAll downstream supply =
      dispatcher.dispatchList downstream (WaypointSupply.toList supply) .none :=
  dispatchWithin_eq_dispatchList downstream _ supply .none dispatcher

end Dispatcher

end Toolpath
