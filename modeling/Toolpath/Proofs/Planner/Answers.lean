import Toolpath.Planner.Downstream

/-!
# What a planner says in the end

A planner may ask for any number of waits before it takes a block or refuses it for good.
`Answers` says so without a bound on the number of offers; the bounded loop gives the same
answer as soon as it is willing to make one offer more than there are waits.
-/

namespace Toolpath

variable {α σ : Type}

/-- A block to be handed on, and the waiting time in force between two offers of it. -/
structure Order (α : Type) where
  /-- Microseconds between two offers. -/
  poll : UInt32
  /-- The block. -/
  block : Block α

/-- What a final answer makes of the offers. -/
def Answer.outcome : Answer → Except (Fault α) Unit
  | .accepted => .ok ()
  | .full => .error .outOfPatience
  | .fatal cause => .error (.planner cause)

namespace Downstream

/-- The same planner, with another bound on the offers of one block. -/
def within (downstream : Downstream α σ) (patience : Nat) : Downstream α σ :=
  { downstream with patience }

/-- Offered the block of an order again and again, the planner gives the answer after a number
of waits, each for the waiting time of the order. -/
inductive Answers (downstream : Downstream α σ) (order : Order α) (answer : Answer) :
    Nat → σ → σ → Prop where
  /-- The answer comes at the first offer. -/
  | atOnce {state next : σ} (h : downstream.offer state order.block = (answer, next)) :
      Answers downstream order answer 0 state next
  /-- There is no room yet. -/
  | afterWait {waits : Nat} {state full next : σ}
      (h : downstream.offer state order.block = (.full, full))
      (hnext : Answers downstream order answer waits (downstream.wait full order.poll) next) :
      Answers downstream order answer (waits + 1) state next

/-- Each of some orders is taken, after numbers of waits that may differ. -/
inductive TakesEach (downstream : Downstream α σ) :
    List (Order α) → List Nat → σ → σ → Prop where
  /-- Nothing is left to take. -/
  | done (state : σ) : TakesEach downstream [] [] state state
  /-- The first order is taken, and then the others. -/
  | next {order : Order α} {orders : List (Order α)} {waits : Nat} {others : List Nat}
      {state taken final : σ} (h : downstream.Answers order .accepted waits state taken)
      (hrest : TakesEach downstream orders others taken final) :
      TakesEach downstream (order :: orders) (waits :: others) state final

variable {downstream : Downstream α σ}

/-- The bound on the offers is no matter of the planner. -/
theorem Answers.within {order : Order α} {answer : Answer} {waits : Nat} {state next : σ}
    (h : downstream.Answers order answer waits state next) (patience : Nat) :
    (downstream.within patience).Answers order answer waits state next := by
  induction h with
  | atOnce h => exact .atOnce h
  | afterWait h _ ih => exact .afterWait h ih

/-- The bound on the offers does not change what is taken. -/
theorem TakesEach.within {orders : List (Order α)} {waits : List Nat} {state final : σ}
    (h : downstream.TakesEach orders waits state final) (patience : Nat) :
    (downstream.within patience).TakesEach orders waits state final := by
  induction h with
  | done state => exact .done state
  | next h _ ih => exact .next (h.within patience) ih

/-- Where the orders are split, so is what is taken. -/
theorem TakesEach.split {first second : List (Order α)} {waits : List Nat} {state final : σ}
    (h : downstream.TakesEach (first ++ second) waits state final) :
    ∃ before after middle, waits = before ++ after ∧
      downstream.TakesEach first before state middle ∧
      downstream.TakesEach second after middle final := by
  induction first generalizing waits state with
  | nil => exact ⟨[], waits, state, rfl, .done state, h⟩
  | cons order first ih =>
    cases h with
    | next h hrest =>
      obtain ⟨before, after, middle, rfl, hfirst, hsecond⟩ := ih hrest
      exact ⟨_ :: before, after, middle, rfl, .next h hfirst, hsecond⟩

/-- The loop ends with what the planner says in the end, if it is willing to make one offer
more than there are waits. -/
theorem submitWithin_of_answers {order : Order α} {answer : Answer} {waits : Nat}
    {state next : σ} (h : downstream.Answers order answer waits state next)
    (hfinal : answer ≠ .full) {offers : Nat} (hoffers : waits < offers) :
    downstream.submitWithin order.poll order.block offers state = (answer.outcome, next) := by
  obtain ⟨rest, rfl⟩ := Nat.exists_eq_add_of_lt hoffers
  induction h with
  | atOnce h =>
    cases answer with
    | accepted => exact submitWithin_accepted _ h
    | full => exact absurd rfl hfinal
    | fatal cause => exact submitWithin_fatal _ h
  | @afterWait waits state full next h _ ih =>
    rw [Nat.add_right_comm waits 1 rest, submitWithin_full _ h]
    exact ih (by omega)

/-- All waits together. -/
def totalWaits : List Nat → Nat
  | [] => 0
  | count :: waits => count + totalWaits waits

/-- A bound beyond all waits together is beyond each of them. -/
theorem lt_of_totalWaits_lt {waits : List Nat} {patience : Nat} (h : totalWaits waits < patience) :
    ∀ count ∈ waits, count < patience := by
  induction waits with
  | nil => exact nofun
  | cons count waits ih =>
    rw [totalWaits] at h
    have hothers : totalWaits waits < patience := by omega
    exact List.forall_mem_cons.mpr ⟨by omega, ih hothers⟩

/-- There is a number of waits for each order. -/
theorem TakesEach.length_eq {orders : List (Order α)} {waits : List Nat} {state final : σ}
    (h : downstream.TakesEach orders waits state final) : orders.length = waits.length := by
  induction h with
  | done state => rfl
  | next _ _ ih => rw [List.length_cons, List.length_cons, ih]

end Downstream

end Toolpath
