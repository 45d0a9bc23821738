import Toolpath.Proofs.Machine.Gap
import Toolpath.Proofs.Planner.Conversation
import Toolpath.Proofs.Planner.History

/-!
# Queues that are halted while a dispatcher waits

A dispatcher offers a block to a full queue and waits. During the wait others use the queue: they
take blocks out, halt it or let it resume. If the queue is halted when the wait is over, the next
offer is refused for good, however full the queue still is. The dispatcher then stands where it
stood, and the queue is as the others left it.
-/

namespace Toolpath

variable {α : Type} {capacity : Nat}

/-- A queue of blocks that others use during the waits of a dispatcher. -/
structure AttendedQueue (α : Type) (capacity : Nat) where
  /-- The queue. -/
  queue : HaltableQueue (Block α) capacity
  /-- Number of waits so far. -/
  waits : Nat

namespace AttendedQueue

/-- How others use a queue during each wait, from the first wait on. -/
abbrev Visits (α : Type) := Nat → List (QueueUse (Block α))

/-- What the others do to the queue during the next wait. -/
def visit (visits : Visits α) (attended : AttendedQueue α capacity) : AttendedQueue α capacity :=
  ⟨(attended.queue.useAll (visits attended.waits)).2, attended.waits + 1⟩

/-- What the others do during a number of waits. -/
def visitAll (visits : Visits α) : Nat → AttendedQueue α capacity → AttendedQueue α capacity
  | 0, attended => attended
  | count + 1, attended => visitAll visits count (attended.visit visits)

/-- An attended queue as what lies downstream of a dispatcher. -/
def downstream (visits : Visits α) : Downstream α (AttendedQueue α capacity) where
  offer := fun attended block =>
    ((attended.queue.offer block).1, { attended with queue := (attended.queue.offer block).2 })
  wait := fun attended _ => attended.visit visits
  patience := 1

/-- The queue runs and is full through a number of waits, and is halted during the next one. -/
structure HaltedAfter (visits : Visits α) (count : Nat) (attended : AttendedQueue α capacity) :
    Prop where
  /-- Nobody has halted it before. -/
  running : ∀ i ≤ count, (attended.visitAll visits i).queue.isHalted = false
  /-- There was no room before. -/
  full : ∀ i ≤ count, (attended.visitAll visits i).queue.length = capacity
  /-- Then it is halted. -/
  halted : (attended.visitAll visits (count + 1)).queue.isHalted = true

variable {visits : Visits α} {attended : AttendedQueue α capacity}

/-- A halted queue refuses a block for good and stays as it is. -/
theorem offer_of_halted (h : attended.queue.isHalted = true) (block : Block α) :
    (downstream visits).offer attended block = (.fatal .halted, attended) := by
  have hoffer : attended.queue.offer block = (.fatal .halted, attended.queue) := if_pos h
  simp only [downstream, hoffer]

/-- A running queue that is full refuses a block for now and stays as it is. -/
theorem offer_of_full (hrunning : attended.queue.isHalted = false)
    (hfull : attended.queue.length = capacity) (block : Block α) :
    (downstream visits).offer attended block = (.full, attended) := by
  have hanswer : (attended.queue.offer block).1 = .full := by
    rw [HaltableQueue.offer_answer, hrunning, if_neg Bool.false_ne_true, if_pos hfull]
  have hsame : (attended.queue.offer block).2 = attended.queue := by
    apply HaltableQueue.offer_of_not_accepted
    rw [hanswer]
    exact nofun
  simp only [downstream, hanswer, hsame]

/-- The block is refused for good at the first offer after the queue was halted. -/
theorem HaltedAfter.answers {count : Nat} (h : attended.HaltedAfter visits count)
    (order : Order α) :
    (downstream visits).Answers order (.fatal .halted) (count + 1) attended
      (attended.visitAll visits (count + 1)) := by
  induction count generalizing attended with
  | zero =>
    exact .afterWait (offer_of_full (h.running 0 (Nat.le_refl 0)) (h.full 0 (Nat.le_refl 0)) _)
      (.atOnce (offer_of_halted h.halted order.block))
  | succ count ih =>
    have hrest : (attended.visit visits).HaltedAfter visits count :=
      ⟨fun i hi => h.running (i + 1) (Nat.succ_le_succ hi),
        fun i hi => h.full (i + 1) (Nat.succ_le_succ hi), h.halted⟩
    exact .afterWait (offer_of_full (h.running 0 (Nat.zero_le _)) (h.full 0 (Nat.zero_le _)) _)
      (ih hrest)

/-- Others who only halt the queue and let it resume do not touch what it holds. -/
theorem visitAll_toList (count : Nat)
    (h : ∀ i < count, ∀ use ∈ visits (attended.waits + i), use.isSwitch = true) :
    (attended.visitAll visits count).queue.toList = attended.queue.toList := by
  induction count generalizing attended with
  | zero => rfl
  | succ count ih =>
    have hrest : ∀ i < count, ∀ use ∈ visits ((attended.visit visits).waits + i),
        use.isSwitch = true := by
      intro i hi
      have hlater := h (i + 1) (Nat.succ_lt_succ hi)
      rwa [← Nat.add_assoc, Nat.add_right_comm] at hlater
    have hfirst := HaltableQueue.useAll_toList_of_isSwitch attended.queue (h 0 (Nat.succ_pos count))
    exact (ih hrest).trans hfirst

end AttendedQueue

namespace Dispatcher

variable [Scalar α] {τ : Type}

/-- A dispatcher whose queue is halted while it waits ends with that fault at the next offer. It
stands where it stood. -/
theorem dispatch_of_haltedAfter {visits : AttendedQueue.Visits α} {count patience : Nat}
    {dispatcher : Dispatcher α (AttendedQueue α capacity × Journal α)} {waypoint : Waypoint α}
    (hfar : ¬ (Leg.mk dispatcher.last waypoint).length < leastMove)
    (hhalted : dispatcher.planner.1.HaltedAfter visits count) (hpatience : count + 1 < patience) :
    dispatcher.dispatch ((AttendedQueue.downstream visits).within patience).journaled waypoint =
      (.error (.planner .halted),
        { dispatcher with
          planner := (dispatcher.planner.1.visitAll visits (count + 1),
            ((Order.mk dispatcher.poll (dispatcher.block waypoint)).conversation (.fatal .halted)
              (count + 1)).reverse ++ dispatcher.planner.2) }) := by
  have hanswers := ((hhalted.answers (Order.mk dispatcher.poll (dispatcher.block waypoint))).within
    patience).journaled dispatcher.planner.2
  exact dispatch_of_fault hfar (Downstream.submitWithin_of_answers hanswers nofun hpatience)

end Dispatcher

namespace HaltableQueue

/-- A block queue loses nothing, keeps the order, and being halted wins over being full. Whatever a
new queue of any capacity was used for: an offer is refused for good if the queue was halted and not
resumed since, otherwise for now if the queue holds as many items as it can, and accepted otherwise;
an offer that is not accepted changes nothing. The items taken out since the queue was last cleared,
and then those it holds, are those it accepted since then, in the order in which it accepted them.
What stands first is what the next pop takes out, also after more offers, halts and resumes. The
number of items is never beyond the capacity, the queue is full exactly at the capacity and empty
exactly at none. Halting and resuming do not touch the items, and a halted queue is popped and
cleared like any other and stays halted.
So a dispatcher that waits on a full queue, which others halt during the last of its waits, ends
with that fault: its next offer is the last one, it stands where it stood, and the queue is as the
others left it. If they only halted the queue or let it resume, it holds what it held. -/
theorem useAll_lossless [Scalar α] :
    (∀ (β : Type) (capacity : Nat) (uses : List (QueueUse β)),
      let log := ((empty : HaltableQueue β capacity).useAll uses).1
      let queue := ((empty : HaltableQueue β capacity).useAll uses).2
      (∀ item, (queue.offer item).1 =
          (if log.halted then .fatal .halted
            else if queue.toList.length = capacity then .full
            else .accepted) ∧
        ((queue.offer item).1 ≠ .accepted → (queue.offer item).2 = queue)) ∧
      log.popped ++ queue.toList = log.accepted ∧
      (queue.pop.1 = queue.front? ∧ ∀ item, queue.front? = some item →
        ∀ later : List (QueueUse β), (∀ use ∈ later, use.keeps = true) →
          (queue.useAll later).2.pop.1 = some item) ∧
      (queue.length = queue.toList.length ∧ queue.length ≤ capacity ∧
        (queue.isFull = true ↔ queue.length = capacity) ∧
        (queue.isEmpty = true ↔ queue.length = 0)) ∧
      (queue.halt.toList = queue.toList ∧ queue.resume.toList = queue.toList) ∧
      queue.halt.pop = (queue.pop.1, queue.pop.2.halt) ∧
      queue.halt.clear = (empty : HaltableQueue β capacity).halt) ∧
    ∀ (capacity : Nat) (visits : AttendedQueue.Visits α) (count patience : Nat)
      (dispatcher : Dispatcher α (AttendedQueue α capacity × Journal α)) (waypoint : Waypoint α),
      ¬ (Leg.mk dispatcher.last waypoint).length < leastMove →
      dispatcher.planner.1.HaltedAfter visits count → count + 1 < patience →
      let outcome := dispatcher.dispatch
        ((AttendedQueue.downstream visits).within patience).journaled waypoint
      outcome.1 = .error (.planner .halted) ∧ outcome.2.last = dispatcher.last ∧
      outcome.2.planner.1 = dispatcher.planner.1.visitAll visits (count + 1) ∧
      outcome.2.planner.2 =
        ((Order.mk dispatcher.poll (dispatcher.block waypoint)).conversation (.fatal .halted)
          (count + 1)).reverse ++ dispatcher.planner.2 ∧
      ((∀ i < count + 1, ∀ use ∈ visits (dispatcher.planner.1.waits + i), use.isSwitch = true) →
        outcome.2.planner.1.queue.toList = dispatcher.planner.1.queue.toList) := by
  constructor
  · intro β capacity uses log queue
    have htold : Told log queue := told_useAll uses
    refine ⟨fun item => ⟨?_, queue.offer_of_not_accepted item⟩, htold.order,
      ⟨rfl, fun item hfront later hkeeps => pop_of_front hfront hkeeps⟩,
      ⟨rfl, queue.fifo.length_le, decide_eq_true_iff, ?_⟩, ⟨rfl, rfl⟩, rfl, rfl⟩
    · rw [← htold.halted]
      exact queue.offer_answer item
    · rw [isEmpty, Fifo.isEmpty, List.isEmpty_iff, ← List.length_eq_zero_iff]
      rfl
  · intro capacity visits count patience dispatcher waypoint hfar hhalted hpatience outcome
    have houtcome := Dispatcher.dispatch_of_haltedAfter hfar hhalted hpatience
    refine ⟨congrArg Prod.fst houtcome, ?_, ?_, ?_, fun hswitches => ?_⟩
    · exact congrArg (fun run => run.2.last) houtcome
    · exact congrArg (fun run => run.2.planner.1) houtcome
    · exact congrArg (fun run => run.2.planner.2) houtcome
    · have hqueue : outcome.2.planner.1 = dispatcher.planner.1.visitAll visits (count + 1) :=
        congrArg (fun run => run.2.planner.1) houtcome
      rw [hqueue]
      exact AttendedQueue.visitAll_toList (count + 1) hswitches

/-- A queue with room for one block holds it, stays full through one wait and is halted during the
next one: a dispatcher that is to move ten millimeters ends with that fault. -/
theorem useAll_lossless_secondWait :
    let held : Block ℝ := ⟨⟨0, 0, 0⟩, 0, 1, ⟨1, 0, 0⟩⟩
    let queue : HaltableQueue (Block ℝ) 1 := (empty.useAll [.offer held]).2
    let visits : AttendedQueue.Visits ℝ := fun wait => if wait = 1 then [.halt] else []
    let dispatcher := (Machine.standard (⟨queue, 0⟩, []) :
      Machine ℝ (AttendedQueue ℝ 1 × Journal ℝ)).dispatcher
    let outcome := dispatcher.dispatch ((AttendedQueue.downstream visits).within 3).journaled
      ⟨dispatcher.last.set .x 10, 50⟩
    outcome.1 = .error (.planner .halted) ∧ outcome.2.last = dispatcher.last ∧
    outcome.2.planner.1.queue.toList = [held] ∧ outcome.2.planner.2.length = 5 := by
  intro held queue visits dispatcher outcome
  have hhalted : dispatcher.planner.1.HaltedAfter visits 1 := by
    refine ⟨fun i hi => ?_, fun i hi => ?_, rfl⟩ <;>
      obtain rfl | rfl := Nat.le_one_iff_eq_zero_or_eq_one.mp hi <;> rfl
  have hswitches : ∀ i < 1 + 1, ∀ use ∈ visits (dispatcher.planner.1.waits + i),
      use.isSwitch = true := by
    intro i _ use huse
    by_cases hwait : dispatcher.planner.1.waits + i = 1
    · have hvisit : visits (dispatcher.planner.1.waits + i) = [.halt] := if_pos hwait
      rw [hvisit] at huse
      rw [List.mem_singleton.mp huse]
      rfl
    · have hvisit : visits (dispatcher.planner.1.waits + i) = [] := if_neg hwait
      rw [hvisit] at huse
      cases huse
  obtain ⟨hfault, hlast, -, hjournal, hheld⟩ := (useAll_lossless (α := ℝ)).2 1 visits 1 3 dispatcher
    ⟨dispatcher.last.set .x 10, 50⟩ (Machine.not_near_ten _) hhalted (by decide)
  refine ⟨hfault, hlast, hheld hswitches, ?_⟩
  rw [hjournal]
  rfl

end HaltableQueue

end Toolpath
