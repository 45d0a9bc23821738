import Toolpath.Machine.Basic

/-!
# Requests to a machine

Instructions are the usual way to ask a machine for something. Moves can also be asked for
directly, and so can a declared position, a way of moving and another configuration. Whatever
is asked gets a reply.
-/

namespace Toolpath

/-- What a machine can be asked to do. -/
inductive Request (α : Type) where
  /-- Carry out an instruction. -/
  | obey (instruction : Instruction α)
  /-- Move straight to a target at a rate. -/
  | line (target : PerAxis α) (rate : α)
  /-- Move on an arc to a target. -/
  | arc (target offset : PerAxis α) (radius : α) (turn : Turn)
  /-- Declare where the machine is. -/
  | setPosition (position : PerAxis α)
  /-- Set the way of moving. -/
  | setMode (mode : MoveMode)
  /-- Take over another configuration. -/
  | adopt (config : Configuration α)

/-- What came of a request. -/
inductive Reply (α : Type) where
  /-- There is nothing to report. -/
  | done
  /-- Tally of a move, or the fault that ended it. -/
  | moved (result : Except (Fault α) Tally)
  /-- A configuration was taken over, or not. -/
  | configured (result : Except (ConfigFault α) Unit)

namespace Machine

variable {α σ : Type} [Scalar α]

/-- Do what is asked. -/
def perform (downstream : Downstream α σ) (machine : Machine α σ) :
    Request α → Reply α × Machine α σ
  | .obey instruction =>
    let (result, machine) := machine.obey downstream instruction
    (.moved result, machine)
  | .line target rate =>
    let (result, machine) := machine.lineTo downstream target rate
    (.moved result, machine)
  | .arc target offset radius turn =>
    let (result, machine) := machine.arcTo downstream target offset radius turn
    (.moved result, machine)
  | .setPosition position => (.done, machine.setPosition position)
  | .setMode mode => (.done, machine.setMode mode)
  | .adopt config =>
    let (result, machine) := machine.adopt config
    (.configured result, machine)

/-- Do what is asked, one request after the other. -/
def performAll (downstream : Downstream α σ) (machine : Machine α σ) :
    List (Request α) → List (Reply α) × Machine α σ
  | [] => ([], machine)
  | request :: rest =>
    let (reply, machine) := machine.perform downstream request
    let (replies, machine) := machine.performAll downstream rest
    (reply :: replies, machine)

/-- Requests can be taken up where others end. -/
theorem performAll_append (downstream : Downstream α σ) (machine : Machine α σ)
    (first second : List (Request α)) :
    machine.performAll downstream (first ++ second) =
      ((machine.performAll downstream first).1 ++
          ((machine.performAll downstream first).2.performAll downstream second).1,
        ((machine.performAll downstream first).2.performAll downstream second).2) := by
  induction first generalizing machine with
  | nil => rfl
  | cons request rest ih => simp only [List.cons_append, performAll, ih]

end Machine

end Toolpath
