import Toolpath.Proofs.Machine.Refusal

/-!
# Programs do not depend on what lies downstream

What requests make of a program follows from the program and the requests alone. Where the tool was
last sent, how finely moves are cut, the kinematics and everything that a planner says have no say
in it, and a request that ends early sets up what it would have set up otherwise.
-/

namespace Toolpath

variable {α σ τ : Type} [Scalar α]

/-- The state of the program after requests, one after the other. -/
def ProgramState.afterAll (program : ProgramState α) (requests : List (Request α)) :
    ProgramState α :=
  requests.foldl after program

namespace Machine

/-- A request makes of the program what it says, however it ends. -/
theorem perform_program (downstream : Downstream α σ) (machine : Machine α σ)
    (request : Request α) :
    (machine.perform downstream request).2.program = machine.program.after request := by
  rw [perform_eq]
  rfl

/-- Requests make of the program what they say, one after the other. -/
theorem performAll_program (downstream : Downstream α σ) (machine : Machine α σ)
    (requests : List (Request α)) :
    (machine.performAll downstream requests).2.program = machine.program.afterAll requests := by
  induction requests generalizing machine with
  | nil => rfl
  | cons request rest ih =>
    have hrest := ih (machine.perform downstream request).2
    rw [perform_program] at hrest
    exact hrest

/-- Two machines that agree on the program agree on it after every request. They may differ in all
else: where the tool was last sent, the settings, the kinematics, the waiting time, the planner and
what it says, and so in which requests end with a fault. -/
theorem performAll_program_agrees (first : Downstream α σ) (second : Downstream α τ)
    {left : Machine α σ} {right : Machine α τ} (hagree : left.program = right.program)
    (requests : List (Request α)) (count : Nat) :
    (left.performAll first (requests.take count)).2.program =
      (right.performAll second (requests.take count)).2.program := by
  rw [performAll_program, performAll_program, hagree]

/-- A planner that takes everything and one that refuses everything leave the same program, and so
do other motors: the line ends well on one side and with a fault on the other. -/
theorem performAll_program_agrees_halting :
    let request : Request ℝ := .obey (tenAlongX ((1 : ℤ) : ℝ))
    let left : Machine ℝ (List (Block ℝ)) := standard []
    let right : Machine ℝ Nat :=
      { standard 0 with dispatcher := { (standard 0).dispatcher with
        kinematics := (CartesianDrive.mk (PerAxis.uniform 1)).kinematics } }
    left.program = right.program ∧
    (∃ tally, (left.performAll .recorder ([request].take 1)).1 = [.moved (.ok tally)]) ∧
    (right.performAll .halting ([request].take 1)).1 = [.moved (.error (.planner .halted))] ∧
    (left.performAll .recorder ([request].take 1)).2.program =
      (right.performAll .halting ([request].take 1)).2.program := by
  intro request left right
  have hagree : left.program = right.program := rfl
  have hmode : (right.program.withModes (tenAlongX ((1 : ℤ) : ℝ))).mode = .feed := by
    rw [withModes_tenAlongX right.program rfl]
  have hblocks : right.blocks request ≠ [] := by
    refine blocks_ne_nil_of_far (gap_standard 0) (.inr hmode) ?_
    have htarget := @target_tenAlongX _ 0 1 .feed rfl
    exact fun hnear => not_near_ten 0 (htarget ▸ hnear)
  obtain ⟨block, rest, hcons⟩ := List.exists_cons_of_ne_nil hblocks
  have hsubmit : Downstream.halting.submit right.dispatcher.poll block 0 =
      (.error (.planner .halted), 0) := rfl
  have hdelivery := Downstream.deliver_cons_of_error hsubmit rest
  rw [← hcons] at hdelivery
  have hleft : (left.perform .recorder request).1 = .moved (.ok (left.tally request)) :=
    congrArg Prod.fst (perform_recorder left [] request)
  have hright : (right.perform .halting request).1 = .moved (.error (.planner .halted)) :=
    (congrArg Prod.fst (perform_of_delivery hdelivery)).trans (reply_of_blocks hblocks _)
  refine ⟨hagree, ⟨left.tally request, congrArg (fun reply => [reply]) hleft⟩,
    congrArg (fun reply => [reply]) hright, ?_⟩
  exact performAll_program_agrees .recorder .halting hagree [request] 1

end Machine

end Toolpath
