import Toolpath.Proofs.Machine.Gap

/-!
# Refused blocks

A planner that refuses a block for good ends the request at that block. The blocks before it are
handed on as in the prompt run, those after it are never offered. What is set up for later
requests does not depend on the refusal, apart from where the tool was last sent.
-/

namespace Toolpath

variable {α σ τ : Type}

/-- A journal of a delivery that ends with a refused block has the blocks before it among the
taken ones, and the refusal as its last event. -/
theorem Downstream.journaled_deliver_of_refused {downstream : Downstream α σ} {poll : UInt32}
    {first : List (Block α)} {refused : Block α} {cause : PlannerFault} {waits : List Nat}
    {count : Nat} {planner middle final : σ}
    (htaken : downstream.TakesEach (first.map (Order.mk poll)) waits planner middle)
    (hrefused : downstream.Answers ⟨poll, refused⟩ (.fatal cause) count middle final)
    (hpatience : ∀ n ∈ count :: waits, n < downstream.patience) (rest : List (Block α)) :
    ∃ journal : Journal α,
      downstream.journaled.deliver poll (first ++ refused :: rest) (planner, []) =
        ⟨some (.planner cause), first.length, (final, journal)⟩ ∧
      journal.accepted = first ∧ journal.head? = some (.offered refused (.fatal cause)) := by
  have hdelivery : downstream.journaled.deliver poll (first ++ refused :: rest) (planner, []) =
      ⟨some (.planner cause), first.length, _⟩ :=
    deliver_of_refused (htaken.journaled []) (hrefused.journaled _) hpatience
  refine ⟨_, hdelivery, ?_, ?_⟩
  · have haccepted :=
      downstream.journaled_deliver_accepted poll (first ++ refused :: rest) planner []
    rw [hdelivery, List.take_left] at haccepted
    exact haccepted
  · rw [List.head?_append, List.head?_reverse, Order.conversation_getLast?]
    rfl

/-- A planner that takes as many blocks as its state says and refuses the others for good. -/
def Downstream.halting : Downstream α Nat where
  offer := fun room _ =>
    match room with
    | 0 => (.fatal .halted, 0)
    | room + 1 => (.accepted, room)
  wait := fun room _ => room
  patience := 1

/-- The halting planner takes as many orders as it has room for. -/
theorem Downstream.halting_takesEach (orders : List (Order α)) :
    halting.TakesEach orders (List.replicate orders.length 0) orders.length 0 := by
  induction orders with
  | nil => exact .done 0
  | cons order orders ih => exact .next (.atOnce rfl) ih

namespace Machine

variable [Scalar α]

/-- A request has come to its end at a block that was refused for good. It is compared with the
prompt run of the same request, after which there is another machine. -/
structure CutShort (machine : Machine α τ) (request : Request α)
    (prompt : Machine α (List (Block α))) (first : List (Block α)) (refused : Block α)
    (cause : PlannerFault) (outcome : Reply α × Machine α (σ × Journal α)) : Prop where
  /-- The reply is the fault. -/
  reply : outcome.1 = .moved (.error (.planner cause))
  /-- The blocks before the refused one were taken, and no others. -/
  accepted : outcome.2.journal.accepted = first
  /-- The refusal is the last thing that happened downstream. -/
  refusal : outcome.2.journal.head? = some (.offered refused (.fatal cause))
  /-- The blocks of the prompt run are those of the legs of the request. -/
  legs : (machine.legs request).map (Leg.block machine.dispatcher.kinematics) =
    prompt.dispatcher.planner
  /-- The tool was last sent to the waypoint of the last block that was taken, or where it was
  sent before the request. -/
  last : outcome.2.dispatcher.last =
    (((machine.legs request).take first.length).getLast?.map fun leg => leg.waypoint.point).getD
      machine.dispatcher.last
  /-- The program goes on as if nothing had been refused. -/
  program : outcome.2.program = prompt.program
  /-- The same settings are in use. -/
  settings : outcome.2.settings = prompt.settings
  /-- The same kinematics are in use. -/
  kinematics : outcome.2.dispatcher.kinematics = prompt.dispatcher.kinematics
  /-- The same waiting time is in force. -/
  poll : outcome.2.dispatcher.poll = prompt.dispatcher.poll
  /-- An instruction moves the commanded position to its target all the same. -/
  position_obey : ∀ instruction, request = .obey instruction →
    outcome.2.program.position = (machine.program.withModes instruction).target instruction
  /-- A move that is asked for directly leaves the commanded position where it was. -/
  position_direct : (∀ instruction, request ≠ .obey instruction) →
    outcome.2.program.position = machine.program.position

/-- The fault of a block is the reply to the request. -/
theorem reply_of_blocks {machine : Machine α σ} {request : Request α}
    (h : machine.blocks request ≠ []) (fault : Fault α) :
    machine.reply (some fault) request = .moved (.error fault) := by
  obtain ⟨_, rfl⟩ | ⟨_, _, rfl⟩ | ⟨_, _, _, _, rfl⟩ := move_of_blocks h <;> rfl

/-- A request with blocks that is no instruction leaves the program as it is. -/
theorem program_after_of_blocks {machine : Machine α σ} {request : Request α}
    (h : machine.blocks request ≠ []) (hdirect : ∀ instruction, request ≠ .obey instruction) :
    machine.program.after request = machine.program := by
  obtain ⟨instruction, rfl⟩ | ⟨_, _, rfl⟩ | ⟨_, _, _, _, rfl⟩ := move_of_blocks h
  · exact absurd rfl (hdirect instruction)
  · rfl
  · rfl

/-- A planner that refuses a block for good cuts a request short exactly there. Whatever state
the machine is in: if the planner takes the first blocks of the request, each after any number
of answers that there is no room, and then refuses the next one for good, the request is cut
short at that block. -/
theorem perform_refused (machine : Machine α τ) (request : Request α)
    (downstream : Downstream α σ) {first rest : List (Block α)} {refused : Block α}
    {cause : PlannerFault} {waits : List Nat} {count : Nat} {planner middle final : σ}
    (hprompt : ((machine.onto []).perform .recorder request).2.dispatcher.planner =
      first ++ refused :: rest)
    (htaken : downstream.TakesEach (first.map (Order.mk machine.dispatcher.poll)) waits
      planner middle)
    (hrefused : downstream.Answers ⟨machine.dispatcher.poll, refused⟩ (.fatal cause) count
      middle final) :
    ∃ enough, ∀ patience ≥ enough,
      machine.CutShort request ((machine.onto []).perform .recorder request).2 first refused cause
        ((machine.onto (planner, [])).perform (downstream.within patience).journaled request) := by
  refine ⟨Downstream.totalWaits (count :: waits) + 1, fun patience hpatience => ?_⟩
  have hblocks : machine.blocks request = first ++ refused :: rest := by
    rw [perform_recorder] at hprompt
    exact hprompt
  have hsome : machine.blocks request ≠ [] := by
    rw [hblocks]
    exact append_cons_ne_nil _ _ _
  obtain ⟨journal, hdelivery, haccepted, hrefusal⟩ :=
    Downstream.journaled_deliver_of_refused (htaken.within patience) (hrefused.within patience)
      (Downstream.lt_of_totalWaits_lt hpatience) rest
  rw [← hblocks] at hdelivery
  rw [perform_of_delivery hdelivery, perform_recorder]
  constructor
  · exact reply_of_blocks hsome _
  · exact haccepted
  · exact hrefusal
  · rfl
  · rw [← Leg.finish_eq_getLast?]
    change machine.lastAfter first.length request = _
    rw [lastAfter, declared?_of_blocks hsome]
    rfl
  · rfl
  · rfl
  · rfl
  · rfl
  · rintro instruction rfl
    rfl
  · intro hdirect
    exact congrArg ProgramState.position (program_after_of_blocks hsome hdirect)

/-- A line of ten millimeters from the standard machine is cut short at its last block, by a
planner that takes all blocks but that one. -/
theorem perform_refused_tenAlongX :
    let machine : Machine ℝ Unit := standard ()
    let request : Request ℝ := .obey (tenAlongX ((1 : ℤ) : ℝ))
    let prompt := ((machine.onto []).perform .recorder request).2
    ∃ first refused, prompt.dispatcher.planner = first ++ [refused] ∧
      ∃ enough, ∀ patience ≥ enough,
        machine.CutShort request prompt first refused .halted
          ((machine.onto (first.length, [])).perform
            (Downstream.halting.within patience).journaled request) := by
  intro machine request prompt
  have hrecorder := perform_recorder machine [] request
  have hprompt : prompt.dispatcher.planner = machine.blocks request :=
    congrArg (fun run => run.2.dispatcher.planner) hrecorder
  have hmode : (machine.program.withModes (tenAlongX ((1 : ℤ) : ℝ))).mode = .feed := by
    rw [withModes_tenAlongX machine.program rfl]
  have hblocks : machine.blocks request ≠ [] := by
    refine blocks_ne_nil_of_far (gap_standard ()) (.inr hmode) ?_
    rw [target_tenAlongX () rfl]
    exact not_near_ten ()
  have hsplit := List.dropLast_append_getLast hblocks
  refine ⟨(machine.blocks request).dropLast, (machine.blocks request).getLast hblocks,
    hprompt.trans hsplit.symm, ?_⟩
  have htaken := Downstream.halting_takesEach
    ((machine.blocks request).dropLast.map (Order.mk machine.dispatcher.poll))
  rw [List.length_map] at htaken
  exact perform_refused machine request .halting (hprompt.trans hsplit.symm) htaken (.atOnce rfl)

end Machine

end Toolpath
