import Toolpath.Binary64.Arithmetic
import Toolpath.Proofs.Configuration.Usable
import Toolpath.Proofs.Machine.Run
import Toolpath.Proofs.Planner.Depot

/-!
# Backpressure is transparent

A planner that is full for now makes a machine wait, and makes no other difference: replies,
machine and blocks are those of the prompt run after every request. All that a wait adds is one
wait for the waiting time in force and one more offer of the same block. Bounded stores that a
consumer empties are planners of this kind.
-/

namespace Toolpath

variable {α σ τ : Type} [Scalar α]

/-- What a machine with a waiting time says downstream during one request whose blocks are all
taken, the first event first. -/
structure Journal.Patient (poll : UInt32) (events : List (Event α)) : Prop where
  /-- After every answer that there is no room it waits once and offers the same block. -/
  resumed : Resumed poll events
  /-- It never waits for another time. -/
  waited : ∀ time, .waited time ∈ events → time = poll
  /-- It never offers a block for a move that is too short. -/
  far : ∀ block answer, .offered block answer ∈ events → ¬ block.length < leastMove

namespace Machine

/-- The end of a run over a planner is that of the prompt run, apart from the planner. -/
structure WaitsOut (machine : Machine α τ) (downstream : Downstream α σ) (planner : σ)
    (requests : List (Request α)) : Prop where
  /-- The replies are the same. -/
  replies : (machine.runOver downstream planner requests).1 = (machine.promptRun requests).1
  /-- The machine is the same. -/
  state : (machine.runOver downstream planner requests).2.onto () =
    (machine.promptRun requests).2.onto ()
  /-- The blocks that were taken are the same. -/
  accepted : (machine.runOver downstream planner requests).2.journal.accepted =
    (machine.promptRun requests).2.dispatcher.planner
  /-- There are as many waits as answers that there is no room. -/
  waits : (machine.runOver downstream planner requests).2.journal.waits.length =
    (machine.runOver downstream planner requests).2.journal.refusals
  /-- Every offer was taken or was answered that there is no room. -/
  offers : (machine.runOver downstream planner requests).2.journal.offers =
    (machine.runOver downstream planner requests).2.journal.accepted.length +
      (machine.runOver downstream planner requests).2.journal.refusals

/-- The run over a planner is the prompt run with waits in it. -/
structure Transparent (machine : Machine α τ) (downstream : Downstream α σ) (planner : σ)
    (requests : List (Request α)) : Prop where
  /-- After every request the two runs have come to the same. -/
  waitsOut : ∀ first, first <+: requests → machine.WaitsOut downstream planner first
  /-- During every request the machine keeps to the waiting time in force. -/
  patient : ∀ first request, first ++ [request] <+: requests →
    ∃ events, (machine.runOver downstream planner (first ++ [request])).2.journal =
        events.reverse ++ (machine.runOver downstream planner first).2.journal ∧
      Journal.Patient (pollInForce machine.dispatcher.poll first) events

variable {downstream : Downstream α σ} {machine : Machine α τ} {waits : List Nat}
  {planner final : σ}

/-- Over a planner that takes the orders in the end, the journal of a run holds the
conversations about them. -/
theorem runOver_of_takesEach {requests : List (Request α)}
    (h : downstream.TakesEach ((machine.onto ()).orders requests) waits planner final)
    (hpatience : ∀ count ∈ waits, count < downstream.patience) :
    machine.runOver downstream planner requests =
      ((machine.promptRun requests).1, (machine.promptRun requests).2.onto
        (final, (Downstream.conversations ((machine.onto ()).orders requests) waits).reverse)) := by
  have hrun := performAll_of_takesEach (h.journaled []) hpatience []
  rw [List.append_nil] at hrun
  exact hrun

/-- The run over a planner that takes the orders in the end comes to what the prompt run comes
to. -/
theorem waitsOut_of_takesEach {requests : List (Request α)}
    (h : downstream.TakesEach ((machine.onto ()).orders requests) waits planner final)
    (hpatience : ∀ count ∈ waits, count < downstream.patience) :
    machine.WaitsOut downstream planner requests := by
  have hrun := runOver_of_takesEach h hpatience
  have hjournal : (machine.runOver downstream planner requests).2.journal =
      (Downstream.conversations ((machine.onto ()).orders requests) waits).reverse := by
    rw [hrun]
    rfl
  refine ⟨congrArg Prod.fst hrun, ?_, ?_, ?_, ?_⟩
  · rw [hrun]
    rfl
  · rw [hjournal, h.accepted, promptRun_blocks]
  · rw [hjournal, h.waits_length, h.refusals]
  · rw [hjournal, h.offers, h.accepted, h.refusals, List.length_map]

/-- Every order of one request has the waiting time of the machine and a block for a move that
is long enough. -/
theorem mem_orders_singleton (machine : Machine α Unit) (request : Request α) :
    ∀ order ∈ machine.orders [request],
      order.poll = machine.dispatcher.poll ∧ ¬ order.block.length < leastMove := by
  intro order h
  rw [orders_cons, orders, List.append_nil] at h
  obtain ⟨block, hblock, rfl⟩ := List.mem_map.mp h
  obtain ⟨leg, hleg, rfl⟩ := List.mem_map.mp hblock
  exact ⟨rfl, Leg.through_far _ _ leg hleg⟩

/-- What is said about orders that are taken is said patiently. -/
theorem patient_of_orders {poll : UInt32} {orders : List (Order α)}
    (h : ∀ order ∈ orders, order.poll = poll ∧ ¬ order.block.length < leastMove)
    (waits : List Nat) : Journal.Patient poll (Downstream.conversations orders waits) := by
  refine ⟨Downstream.conversations_resumed (fun order horder => (h order horder).1) waits,
    fun time htime => ?_, fun block answer hoffer => ?_⟩
  · obtain ⟨order, horder, ⟨given, hevent⟩ | hevent⟩ := Downstream.mem_conversations htime
    · cases hevent
    · cases hevent
      exact (h order horder).1
  · obtain ⟨order, horder, ⟨given, hevent⟩ | hevent⟩ := Downstream.mem_conversations hoffer
    · cases hevent
      exact (h order horder).2
    · cases hevent

/-- During the last request the machine keeps to the waiting time in force. -/
theorem patient_of_takesEach {first : List (Request α)} {request : Request α}
    (h : downstream.TakesEach ((machine.onto ()).orders (first ++ [request])) waits planner final)
    (hpatience : ∀ count ∈ waits, count < downstream.patience) :
    ∃ events, (machine.runOver downstream planner (first ++ [request])).2.journal =
        events.reverse ++ (machine.runOver downstream planner first).2.journal ∧
      Journal.Patient (pollInForce machine.dispatcher.poll first) events := by
  have hboth := runOver_of_takesEach h hpatience
  rw [orders_append _ first [request] []] at h hboth
  obtain ⟨before, during, middle, rfl, htaken, -⟩ := h.split
  have hfirst := runOver_of_takesEach htaken
    (fun count hcount => hpatience count (List.mem_append_left during hcount))
  have hpoll : (machine.promptRun first).2.dispatcher.poll =
      pollInForce machine.dispatcher.poll first :=
    performAll_poll .recorder (machine.onto []) first
  have hpatient := patient_of_orders
    (mem_orders_singleton ((machine.promptRun first).2.onto ()) request) during
  rw [← hpoll]
  refine ⟨_, ?_, hpatient⟩
  rw [hboth, hfirst, Downstream.conversations_append htaken.length_eq, List.reverse_append]
  rfl

/-- A run over a planner that takes the orders in the end is the prompt run with waits in it. -/
theorem transparent_of_takesEach {requests : List (Request α)}
    (h : downstream.TakesEach ((machine.onto ()).orders requests) waits planner final)
    (hpatience : ∀ count ∈ waits, count < downstream.patience) :
    machine.Transparent downstream planner requests := by
  -- The orders of the requests so far are taken first, so they settle what has happened so far.
  have hsoFar : ∀ first, first <+: requests → ∃ before middle,
      downstream.TakesEach ((machine.onto ()).orders first) before planner middle ∧
        ∀ count ∈ before, count < downstream.patience := by
    rintro first ⟨second, rfl⟩
    rw [orders_append _ first second []] at h
    obtain ⟨before, after, middle, rfl, hfirst, -⟩ := h.split
    exact ⟨before, middle, hfirst,
      fun count hcount => hpatience count (List.mem_append_left after hcount)⟩
  constructor
  · intro first hfirst
    obtain ⟨before, middle, htaken, hbefore⟩ := hsoFar first hfirst
    exact waitsOut_of_takesEach htaken hbefore
  · intro first request hfirst
    obtain ⟨before, middle, htaken, hbefore⟩ := hsoFar (first ++ [request]) hfirst
    exact patient_of_takesEach htaken hbefore

/-- Backpressure is transparent. Whatever a machine is asked and whatever state it is in: over a
planner that takes every block in the end, after any number of answers that there is no room,
it comes to what it comes to over a planner that takes every block at once, and says nothing
more downstream than its waits ask for. Over a working store of any positive capacity, with a
consumer who never stops for good, what is carried out and held in the end is what was there
before and then the blocks of the prompt run. -/
theorem performAll_transparent (machine : Machine α τ) (requests : List (Request α)) :
    (∀ (σ : Type) (downstream : Downstream α σ) (waits : List Nat) (planner final : σ),
      downstream.TakesEach ((machine.onto ()).orders requests) waits planner final →
        ∃ enough, ∀ patience ≥ enough,
          machine.Transparent (downstream.within patience) planner requests) ∧
    (∀ (pace : Nat → Nat) (depot : Depot α) (capacity : Nat),
      depot.store.capacity? = some capacity → 0 < capacity → (∀ n, ∃ m ≥ n, 0 < pace m) →
        ∃ enough, ∀ patience ≥ enough,
          machine.Transparent ((Depot.downstream pace).within patience) depot requests ∧
          (machine.runOver ((Depot.downstream pace).within patience) depot
              requests).2.dispatcher.planner.1.received =
            depot.received ++ (machine.promptRun requests).2.dispatcher.planner) := by
  constructor
  · intro σ downstream waits planner final h
    refine ⟨Downstream.totalWaits waits + 1, fun patience hpatience => ?_⟩
    exact transparent_of_takesEach (h.within patience) (Downstream.lt_of_totalWaits_lt hpatience)
  · intro pace depot capacity hcapacity hpositive hpace
    obtain ⟨waits, final, htakes, hfinal⟩ := Depot.takesEach hpositive hpace
      ((machine.onto ()).orders requests) depot hcapacity
    refine ⟨Downstream.totalWaits waits + 1, fun patience hpatience => ?_⟩
    have hwithin := htakes.within patience
    have hbound := Downstream.lt_of_totalWaits_lt hpatience
    refine ⟨transparent_of_takesEach hwithin hbound, ?_⟩
    rw [runOver_of_takesEach hwithin hbound, promptRun_blocks]
    exact hfinal

/-- A lane that holds one block and is emptied at every other moment gets all blocks of a line
from the standard machine. -/
theorem performAll_transparent_lane :
    let machine : Machine Float Unit := standard ()
    let pace : Nat → Nat := fun moment => moment % 2
    let depot : Depot Float := ⟨.lane 2 Fifo.empty, 0, []⟩
    let requests : List (Request Float) := [.line ⟨12.0, 0.0, 0.0⟩ 50.0]
    ∃ enough, ∀ patience ≥ enough,
      machine.Transparent ((Depot.downstream pace).within patience) depot requests ∧
      (machine.runOver ((Depot.downstream pace).within patience) depot
          requests).2.dispatcher.planner.1.received =
        depot.received ++ (machine.promptRun requests).2.dispatcher.planner := by
  intro machine pace depot requests
  have hpace : ∀ n, ∃ m ≥ n, 0 < pace m := by
    intro n
    refine ⟨2 * n + 1, by omega, ?_⟩
    change 0 < (2 * n + 1) % 2
    omega
  exact (performAll_transparent machine requests).2 pace depot 1 rfl Nat.one_pos hpace

end Machine

end Toolpath
