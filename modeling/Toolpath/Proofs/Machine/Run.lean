import Toolpath.Proofs.Machine.Plan
import Toolpath.Proofs.Planner.Conversation

/-!
# Runs of a machine

The prompt run of some requests has a planner that takes every block at once. Its blocks, each
with the waiting time in force, are the orders of the requests. Over any planner that takes
these orders in the end, the run is the prompt run but for the planner itself.
-/

namespace Toolpath

variable {α σ τ : Type} [Scalar α]

/-- The waiting time in force after some requests: that of the last configuration that was
taken over, and the one before the requests if there is none. -/
def pollInForce (poll : UInt32) (requests : List (Request α)) : UInt32 :=
  ((requests.filterMap Request.config?).getLast?.map Configuration.poll).getD poll

/-- The first request decides unless a later one does. -/
theorem pollInForce_cons (poll : UInt32) (request : Request α) (rest : List (Request α)) :
    pollInForce poll (request :: rest) =
      pollInForce ((request.config?.map Configuration.poll).getD poll) rest := by
  cases h : request.config? with
  | none => rw [pollInForce, List.filterMap_cons_none h, Option.map_none, Option.getD_none,
      pollInForce]
  | some config =>
    rw [pollInForce, List.filterMap_cons_some h, List.getLast?_cons, pollInForce]
    cases (rest.filterMap Request.config?).getLast? <;> rfl

namespace Machine

/-- Do what is asked with a planner that takes every block at once. -/
def promptRun (machine : Machine α σ) (requests : List (Request α)) :
    List (Reply α) × Machine α (List (Block α)) :=
  (machine.onto []).performAll .recorder requests

/-- Do what is asked over a planner, with a journal of what is asked of it. -/
def runOver (machine : Machine α τ) (downstream : Downstream α σ) (planner : σ)
    (requests : List (Request α)) : List (Reply α) × Machine α (σ × Journal α) :=
  (machine.onto (planner, [])).performAll downstream.journaled requests

/-- Journal of a machine that keeps one. -/
def journal (machine : Machine α (σ × Journal α)) : Journal α := machine.dispatcher.planner.2

/-- Orders of some requests: the blocks of the prompt run, each with the waiting time that is in
force during its request. -/
def orders (machine : Machine α Unit) : List (Request α) → List (Order α)
  | [] => []
  | request :: rest =>
    let next := ((machine.onto []).perform .recorder request).2
    next.dispatcher.planner.map (Order.mk machine.dispatcher.poll) ++ (next.onto ()).orders rest

/-- What came of delivering its blocks is what comes of a request. -/
theorem perform_of_delivery {downstream : Downstream α σ} {machine : Machine α τ}
    {request : Request α} {planner : σ} {delivery : Delivery α σ}
    (h : downstream.deliver machine.dispatcher.poll (machine.blocks request) planner = delivery) :
    (machine.onto planner).perform downstream request =
      (machine.reply delivery.fault? request,
        machine.after delivery.taken delivery.planner request) := by
  subst h
  exact perform_eq downstream (machine.onto planner) request

/-- A request whose blocks are taken in the end is performed to its end. -/
theorem perform_of_takesEach {downstream : Downstream α σ} {machine : Machine α τ}
    {request : Request α} {waits : List Nat} {planner final : σ}
    (h : downstream.TakesEach
      ((machine.blocks request).map (Order.mk machine.dispatcher.poll)) waits planner final)
    (hpatience : ∀ count ∈ waits, count < downstream.patience) :
    (machine.onto planner).perform downstream request =
      (machine.reply none request,
        machine.after (machine.blocks request).length final request) :=
  perform_of_delivery (Downstream.deliver_of_takesEach h hpatience)

/-- The recorder keeps the blocks of a request. -/
theorem perform_recorder (machine : Machine α τ) (taken : List (Block α))
    (request : Request α) :
    (machine.onto taken).perform .recorder request =
      (machine.reply none request,
        machine.after (machine.blocks request).length (taken ++ machine.blocks request)
          request) :=
  perform_of_delivery (Downstream.recorder_deliver _ _ _)

/-- Orders of the first request come first. -/
theorem orders_cons (machine : Machine α Unit) (request : Request α)
    (rest : List (Request α)) :
    machine.orders (request :: rest) =
      (machine.blocks request).map (Order.mk machine.dispatcher.poll) ++
        (machine.after (machine.blocks request).length () request).orders rest := by
  rw [orders, perform_recorder]
  rfl

/-- Orders of requests in two parts come in two parts. -/
theorem orders_append (machine : Machine α Unit) (first second : List (Request α))
    (taken : List (Block α)) :
    machine.orders (first ++ second) =
      machine.orders first ++
        (((machine.onto taken).performAll .recorder first).2.onto ()).orders second := by
  induction first generalizing machine taken with
  | nil => rfl
  | cons request rest ih =>
    have hnext := ih (machine.after (machine.blocks request).length () request)
      (taken ++ machine.blocks request)
    rw [List.cons_append, orders_cons, orders_cons, hnext, List.append_assoc]
    simp only [performAll, perform_recorder]
    rfl

/-- Over a planner that takes the orders in the end, a run is the prompt run but for the
planner. -/
theorem performAll_of_takesEach {downstream : Downstream α σ} {machine : Machine α Unit}
    {requests : List (Request α)} {waits : List Nat} {planner final : σ}
    (h : downstream.TakesEach (machine.orders requests) waits planner final)
    (hpatience : ∀ count ∈ waits, count < downstream.patience) (taken : List (Block α)) :
    (machine.onto planner).performAll downstream requests =
      (((machine.onto taken).performAll .recorder requests).1,
        ((machine.onto taken).performAll .recorder requests).2.onto final) := by
  induction requests generalizing machine waits planner taken with
  | nil =>
    cases h
    rfl
  | cons request rest ih =>
    rw [orders_cons] at h
    obtain ⟨before, after, middle, rfl, hfirst, hrest⟩ := h.split
    have hstep := perform_of_takesEach hfirst
      (fun count hcount => hpatience count (List.mem_append_left after hcount))
    have hothers := ih hrest
      (fun count hcount => hpatience count (List.mem_append_right before hcount))
      (taken ++ machine.blocks request)
    simp only [performAll, hstep, perform_recorder]
    exact congrArg (fun run => (machine.reply none request :: run.1, run.2)) hothers

/-- The blocks of the prompt run are those of the orders. -/
theorem promptRun_blocks (machine : Machine α σ) (requests : List (Request α)) :
    (machine.promptRun requests).2.dispatcher.planner =
      ((machine.onto ()).orders requests).map Order.block := by
  have htakes := Downstream.recorder_takesEach ((machine.onto ()).orders requests) []
  have hrun := performAll_of_takesEach htakes
    (fun count hcount => by rw [List.eq_of_mem_replicate hcount]; exact Nat.zero_lt_one) []
  have hplanner := congrArg (fun run => run.2.dispatcher.planner) hrun
  exact hplanner

/-- The waiting time in force follows the configurations that are taken over, whatever the
planner says. -/
theorem performAll_poll (downstream : Downstream α σ) (machine : Machine α σ)
    (requests : List (Request α)) :
    (machine.performAll downstream requests).2.dispatcher.poll =
      pollInForce machine.dispatcher.poll requests := by
  induction requests generalizing machine with
  | nil => rfl
  | cons request rest ih =>
    have hstep : (machine.perform downstream request).2.dispatcher.poll =
        (request.config?.map Configuration.poll).getD machine.dispatcher.poll := by
      rw [perform_eq]
      rfl
    rw [pollInForce_cons, ← hstep]
    exact ih (machine.perform downstream request).2

end Machine

end Toolpath
