import Toolpath.Fault
import Toolpath.Move.Waypoint

/-!
# What lies downstream of the dispatcher

The dispatcher offers blocks to a planner and waits between two offers of the same block. A
planner takes a block, is full for now, or refuses it for good. Waiting changes what lies
downstream, since blocks are carried out meanwhile; how often the dispatcher is willing to wait
is a property of the whole arrangement.
-/

namespace Toolpath

/-- What a planner says to an offered block. -/
inductive Answer where
  /-- The block is taken. -/
  | accepted
  /-- There is no room for now. -/
  | full
  /-- The block is refused for good. -/
  | fatal (cause : PlannerFault)

/-- A planner and the time that passes while one waits for it, both acting on a state. -/
structure Downstream (α σ : Type) where
  /-- Offer a block. -/
  offer : σ → Block α → Answer × σ
  /-- Wait for a number of microseconds. -/
  wait : σ → UInt32 → σ
  /-- Greatest number of times that one block is offered. -/
  patience : Nat

namespace Downstream

variable {α σ : Type}

/-- Offer a block until it is taken or refused for good, waiting after every answer that
there is no room, for at most the given number of offers. -/
def submitWithin (downstream : Downstream α σ) (poll : UInt32) (block : Block α) :
    Nat → σ → Except (Fault α) Unit × σ
  | 0, state => (.error .outOfPatience, state)
  | offers + 1, state =>
    match downstream.offer state block with
    | (.accepted, state) => (.ok (), state)
    | (.full, state) => downstream.submitWithin poll block offers (downstream.wait state poll)
    | (.fatal cause, state) => (.error (.planner cause), state)

/-- Offer a block with the whole patience. -/
def submit (downstream : Downstream α σ) (poll : UInt32) (block : Block α) (state : σ) :
    Except (Fault α) Unit × σ :=
  downstream.submitWithin poll block downstream.patience state

variable {downstream : Downstream α σ} {poll : UInt32} {block : Block α} {state next : σ}

/-- A block that is taken at once is offered once. -/
theorem submitWithin_accepted (offers : Nat)
    (h : downstream.offer state block = (.accepted, next)) :
    downstream.submitWithin poll block (offers + 1) state = (.ok (), next) := by
  rw [submitWithin, h]

/-- A full planner is waited for and offered the same block again. -/
theorem submitWithin_full (offers : Nat) (h : downstream.offer state block = (.full, next)) :
    downstream.submitWithin poll block (offers + 1) state =
      downstream.submitWithin poll block offers (downstream.wait next poll) := by
  rw [submitWithin, h]

/-- A refusal for good ends the offers. -/
theorem submitWithin_fatal (offers : Nat) {cause : PlannerFault}
    (h : downstream.offer state block = (.fatal cause, next)) :
    downstream.submitWithin poll block (offers + 1) state = (.error (.planner cause), next) := by
  rw [submitWithin, h]

end Downstream

end Toolpath
