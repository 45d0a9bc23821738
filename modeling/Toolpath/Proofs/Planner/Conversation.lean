import Toolpath.Planner.Journal
import Toolpath.Proofs.Lists
import Toolpath.Proofs.Planner.Answers

/-!
# What is said about orders

When a planner takes an order after some waits, the journal notes a conversation of known form:
every answer that there is no room is followed by one wait and by the same block again, until
the block is taken. Counts of offers, waits and refusals are read off these conversations.
-/

namespace Toolpath

variable {α σ : Type}

namespace Journal

/-- The event is an offer to which there was no room. -/
def isRefusal : Event α → Bool
  | .offered _ .full => true
  | _ => false

/-- Number of answers that there is no room. -/
def refusals (journal : Journal α) : Nat := journal.countP isRefusal

/-- In events listed the first one first, every answer that there is no room is followed by one
wait of the given time, and that by another offer of the same block. -/
def Resumed (poll : UInt32) (events : List (Event α)) : Prop :=
  ∀ before after block, events = before ++ .offered block .full :: after →
    ∃ answer rest, after = .waited poll :: .offered block answer :: rest

/-- Events that go on from others keep what was resumed. -/
theorem Resumed.append {poll : UInt32} {first second : List (Event α)}
    (hfirst : Resumed poll first) (hsecond : Resumed poll second) :
    Resumed poll (first ++ second) := by
  intro before after block h
  rcases append_eq_append_cons h with ⟨middle, hmiddle, rfl⟩ | ⟨middle, -, hmiddle⟩
  · obtain ⟨answer, rest, rfl⟩ := hfirst before middle block hmiddle
    exact ⟨answer, rest ++ second, rfl⟩
  · exact hsecond middle after block hmiddle

end Journal

namespace Order

/-- What is asked downstream about a block that gets a final answer after a number of waits. -/
def conversation (order : Order α) (answer : Answer) : Nat → List (Event α)
  | 0 => [.offered order.block answer]
  | waits + 1 =>
    .offered order.block .full :: .waited order.poll :: order.conversation answer waits

/-- A conversation that ends with a taken block takes that block and no other. -/
theorem conversation_accepted (order : Order α) (waits : Nat) :
    (order.conversation .accepted waits).filterMap Journal.accepted? = [order.block] := by
  induction waits with
  | zero => rfl
  | succ waits ih => simp only [conversation, List.filterMap_cons, Journal.accepted?, ih]

/-- One offer more is made than there are waits. -/
theorem conversation_offers (order : Order α) (waits : Nat) :
    (order.conversation .accepted waits).countP Journal.isOffer = waits + 1 := by
  induction waits with
  | zero => rfl
  | succ waits ih =>
    simp only [conversation, List.countP_cons, Journal.isOffer, ih, Bool.false_eq_true,
      reduceIte, Nat.add_zero]

/-- There is no room as often as there are waits. -/
theorem conversation_refusals (order : Order α) (waits : Nat) :
    (order.conversation .accepted waits).countP Journal.isRefusal = waits := by
  induction waits with
  | zero => rfl
  | succ waits ih =>
    simp only [conversation, List.countP_cons, Journal.isRefusal, ih, Bool.false_eq_true,
      reduceIte, Nat.add_zero]

/-- Every wait is for the waiting time of the order. -/
theorem conversation_waits (order : Order α) (answer : Answer) (waits : Nat) :
    (order.conversation answer waits).filterMap Journal.wait? =
      List.replicate waits order.poll := by
  induction waits with
  | zero => rfl
  | succ waits ih =>
    simp only [conversation, List.filterMap_cons, Journal.wait?, ih, List.replicate_succ]

/-- Every event is about the order: its block is offered, or its waiting time is waited. -/
theorem mem_conversation {order : Order α} {answer : Answer} {waits : Nat} {event : Event α}
    (h : event ∈ order.conversation answer waits) :
    (∃ given, event = .offered order.block given) ∨ event = .waited order.poll := by
  induction waits with
  | zero => exact .inl ⟨answer, List.mem_singleton.mp h⟩
  | succ waits ih =>
    rcases List.mem_cons.mp h with rfl | h
    · exact .inl ⟨.full, rfl⟩
    · rcases List.mem_cons.mp h with rfl | h
      · exact .inr rfl
      · exact ih h

/-- A conversation ends with the final answer. -/
theorem conversation_getLast? (order : Order α) (answer : Answer) (waits : Nat) :
    (order.conversation answer waits).getLast? = some (.offered order.block answer) := by
  induction waits with
  | zero => rfl
  | succ waits ih =>
    rw [conversation, List.getLast?_cons, List.getLast?_cons, ih]
    rfl

/-- A conversation begins with an offer of the block. -/
theorem conversation_begin (order : Order α) (answer : Answer) (waits : Nat) :
    ∃ given rest, order.conversation answer waits = .offered order.block given :: rest := by
  cases waits with
  | zero => exact ⟨answer, [], rfl⟩
  | succ waits => exact ⟨.full, _, rfl⟩

/-- A conversation with a final answer resumes every offer to which there was no room. -/
theorem conversation_resumed (order : Order α) {answer : Answer} (hfinal : answer ≠ .full)
    (waits : Nat) : Journal.Resumed order.poll (order.conversation answer waits) := by
  induction waits with
  | zero =>
    intro before after block h
    obtain ⟨-, hevent, -⟩ := singleton_eq_append_cons h
    exact absurd (Event.offered.inj hevent).2 hfinal
  | succ waits ih =>
    obtain ⟨given, rest, hbegin⟩ := conversation_begin order answer waits
    intro before after block h
    rw [conversation] at h
    cases before with
    | nil =>
      obtain ⟨hevent, rfl⟩ := List.cons.inj h
      obtain ⟨rfl, -⟩ := Event.offered.inj hevent
      exact ⟨given, rest, by rw [hbegin]⟩
    | cons event before =>
      cases before with
      | nil => cases (List.cons.inj (List.cons.inj h).2).1
      | cons other before =>
        exact ih before after block (List.cons.inj (List.cons.inj h).2).2

end Order

namespace Downstream

/-- The conversations about orders that are taken after numbers of waits, in order. -/
def conversations : List (Order α) → List Nat → List (Event α)
  | order :: orders, count :: waits =>
    order.conversation .accepted count ++ conversations orders waits
  | _, _ => []

/-- Orders in two parts are talked about in two parts. -/
theorem conversations_append {first second : List (Order α)} {before after : List Nat}
    (h : first.length = before.length) :
    conversations (first ++ second) (before ++ after) =
      conversations first before ++ conversations second after := by
  induction first generalizing before with
  | nil =>
    rw [List.eq_nil_of_length_eq_zero h.symm]
    rfl
  | cons order first ih =>
    cases before with
    | nil => cases h
    | cons count before =>
      simp only [List.cons_append, conversations, ih (Nat.succ.inj h), List.append_assoc]

/-- Every event is about one of the orders. -/
theorem mem_conversations {orders : List (Order α)} {waits : List Nat} {event : Event α}
    (h : event ∈ conversations orders waits) :
    ∃ order ∈ orders,
      (∃ given, event = .offered order.block given) ∨ event = .waited order.poll := by
  induction orders generalizing waits with
  | nil => cases h
  | cons order orders ih =>
    cases waits with
    | nil => cases h
    | cons count waits =>
      rcases List.mem_append.mp h with h | h
      · exact ⟨order, List.mem_cons_self, Order.mem_conversation h⟩
      · obtain ⟨other, hmem, hevent⟩ := ih h
        exact ⟨other, List.mem_cons_of_mem order hmem, hevent⟩

/-- Conversations about orders with one waiting time resume every offer to which there was no
room. -/
theorem conversations_resumed {poll : UInt32} {orders : List (Order α)}
    (h : ∀ order ∈ orders, order.poll = poll) (waits : List Nat) :
    Journal.Resumed poll (conversations orders waits) := by
  induction orders generalizing waits with
  | nil =>
    intro before after block hevents
    exact absurd hevents.symm (append_cons_ne_nil _ _ _)
  | cons order orders ih =>
    cases waits with
    | nil =>
      intro before after block hevents
      exact absurd hevents.symm (append_cons_ne_nil _ _ _)
    | cons count waits =>
      obtain ⟨hfirst, hrest⟩ := List.forall_mem_cons.mp h
      have hfinal : Answer.accepted ≠ .full := nofun
      have hconversation := Order.conversation_resumed order hfinal count
      rw [hfirst] at hconversation
      exact hconversation.append (ih hrest waits)

variable {downstream : Downstream α σ}

/-- A journal notes the conversation, the last event first. -/
theorem Answers.journaled {order : Order α} {answer : Answer} {waits : Nat} {state next : σ}
    (h : downstream.Answers order answer waits state next) (journal : Journal α) :
    downstream.journaled.Answers order answer waits (state, journal)
      (next, (order.conversation answer waits).reverse ++ journal) := by
  induction h generalizing journal with
  | atOnce h =>
    apply Answers.atOnce
    rw [journaled_offer, h]
    rfl
  | @afterWait waits state full next h _ ih =>
    have hoffer : downstream.journaled.offer (state, journal) order.block =
        (.full, full, .offered order.block .full :: journal) := by
      rw [journaled_offer, h]
    have hrest := ih (.waited order.poll :: .offered order.block .full :: journal)
    rw [Order.conversation, List.reverse_cons, List.reverse_cons, List.append_assoc,
      List.append_assoc]
    exact .afterWait hoffer hrest

variable {orders : List (Order α)} {waits : List Nat} {state final : σ}

/-- A journal notes the conversations about all orders that are taken. -/
theorem TakesEach.journaled (h : downstream.TakesEach orders waits state final)
    (journal : Journal α) :
    downstream.journaled.TakesEach orders waits (state, journal)
      (final, (conversations orders waits).reverse ++ journal) := by
  induction h generalizing journal with
  | done state => exact .done _
  | next h _ ih =>
    rw [conversations, List.reverse_append, List.append_assoc]
    exact .next (h.journaled journal) (ih _)

/-- The blocks that are taken are those of the orders. -/
theorem TakesEach.accepted (h : downstream.TakesEach orders waits state final) :
    Journal.accepted (conversations orders waits).reverse = orders.map Order.block := by
  rw [Journal.accepted, List.reverse_reverse]
  induction h with
  | done state => rfl
  | next _ _ ih =>
    rw [conversations, List.filterMap_append, Order.conversation_accepted, ih]
    rfl

/-- There is no room as often as there are waits. -/
theorem TakesEach.refusals (h : downstream.TakesEach orders waits state final) :
    Journal.refusals (conversations orders waits).reverse = totalWaits waits := by
  rw [Journal.refusals, List.countP_reverse]
  induction h with
  | done state => rfl
  | next _ _ ih =>
    rw [conversations, List.countP_append, Order.conversation_refusals, ih, totalWaits]

/-- Every block is offered once more than there are waits for it. -/
theorem TakesEach.offers (h : downstream.TakesEach orders waits state final) :
    Journal.offers (conversations orders waits).reverse = orders.length + totalWaits waits := by
  rw [Journal.offers, List.countP_reverse]
  induction h with
  | done state => rfl
  | next _ _ ih =>
    rw [conversations, List.countP_append, Order.conversation_offers, ih, totalWaits,
      List.length_cons]
    omega

/-- The waits are counted. -/
theorem TakesEach.waits_length (h : downstream.TakesEach orders waits state final) :
    (Journal.waits (conversations orders waits).reverse).length = totalWaits waits := by
  rw [Journal.waits, List.filterMap_reverse, List.length_reverse]
  induction h with
  | done state => rfl
  | next _ _ ih =>
    rw [conversations, List.filterMap_append, List.length_append, Order.conversation_waits,
      List.length_replicate, ih, totalWaits]

end Downstream

end Toolpath
