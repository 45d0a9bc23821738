import Toolpath.Planner.Journal
import Toolpath.Proofs.Planner.Answers

/-!
# Deliveries

A delivery submits blocks one after the other and ends with the first that is not taken. It
knows nothing of waypoints or programs: only the blocks, the waiting time and the planner
count. Whatever the planner says, what it took is an initial part of the blocks.
-/

namespace Toolpath

variable {α σ : Type}

/-- What came of submitting some blocks. -/
structure Delivery (α σ : Type) where
  /-- The fault that ended the delivery, if one did. -/
  fault? : Option (Fault α)
  /-- Number of blocks that were taken. -/
  taken : Nat
  /-- State of what lies downstream. -/
  planner : σ

/-- A value, unless there is a fault. -/
def resultUnless {β : Type} (fault? : Option (Fault α)) (value : β) : Except (Fault α) β :=
  match fault? with
  | none => .ok value
  | some fault => .error fault

/-- One more event adds its block to the taken ones, if it has one. -/
theorem Journal.accepted_cons (event : Event α) (journal : Journal α) :
    Journal.accepted (event :: journal) = journal.accepted ++ (accepted? event).toList := by
  rw [Journal.accepted, List.reverse_cons, List.filterMap_append, Journal.accepted,
    List.filterMap_cons, List.filterMap_nil]
  cases accepted? event <;> rfl

/-- A block whose offers ended with a result, if it was taken. -/
def takenIf (result : Except (Fault α) Unit) (block : Block α) : List (Block α) :=
  match result with
  | .ok () => [block]
  | .error _ => []

namespace Downstream

/-- Submit blocks one after the other until one is not taken. -/
def deliver (downstream : Downstream α σ) (poll : UInt32) : List (Block α) → σ → Delivery α σ
  | [], state => ⟨none, 0, state⟩
  | block :: rest, state =>
    match downstream.submit poll block state with
    | (.ok (), state) =>
      let delivery := downstream.deliver poll rest state
      { delivery with taken := delivery.taken + 1 }
    | (.error fault, state) => ⟨some fault, 0, state⟩

variable {downstream : Downstream α σ} {poll : UInt32}

/-- Nothing to deliver is delivered. -/
@[simp] theorem deliver_nil (state : σ) : downstream.deliver poll [] state = ⟨none, 0, state⟩ := rfl

/-- A block that is taken is followed by the others. -/
theorem deliver_cons_of_ok {block : Block α} {state next : σ}
    (h : downstream.submit poll block state = (.ok (), next)) (rest : List (Block α)) :
    downstream.deliver poll (block :: rest) state =
      { downstream.deliver poll rest next with
        taken := (downstream.deliver poll rest next).taken + 1 } := by
  rw [deliver, h]

/-- A block that is not taken ends the delivery. -/
theorem deliver_cons_of_error {block : Block α} {state next : σ} {fault : Fault α}
    (h : downstream.submit poll block state = (.error fault, next)) (rest : List (Block α)) :
    downstream.deliver poll (block :: rest) state = ⟨some fault, 0, next⟩ := by
  rw [deliver, h]

/-- A delivery without a fault is complete. -/
theorem deliver_taken_of_no_fault {blocks : List (Block α)} {state : σ}
    (h : (downstream.deliver poll blocks state).fault? = none) :
    (downstream.deliver poll blocks state).taken = blocks.length := by
  induction blocks generalizing state with
  | nil => rfl
  | cons block rest ih =>
    rcases hs : downstream.submit poll block state with ⟨⟨⟩ | ⟨⟩, next⟩
    · rw [deliver_cons_of_error hs] at h
      cases h
    · rw [deliver_cons_of_ok hs] at h ⊢
      exact congrArg (· + 1) (ih h)

/-- Orders that are taken are delivered to the last, and the planner is where they lead. -/
theorem deliver_of_takesEach {blocks : List (Block α)} {waits : List Nat} {state final : σ}
    (h : downstream.TakesEach (blocks.map (Order.mk poll)) waits state final)
    (hpatience : ∀ count ∈ waits, count < downstream.patience) :
    downstream.deliver poll blocks state = ⟨none, blocks.length, final⟩ := by
  induction blocks generalizing waits state with
  | nil =>
    cases h
    rfl
  | cons block rest ih =>
    cases h with
    | next h hrest =>
      obtain ⟨hfirst, hothers⟩ := List.forall_mem_cons.mp hpatience
      rw [deliver_cons_of_ok (submitWithin_of_answers h nofun hfirst), ih hrest hothers]
      rfl

/-- A block that is refused for good ends a delivery after the blocks before it. -/
theorem deliver_of_refused {first rest : List (Block α)} {refused : Block α} {waits : List Nat}
    {count : Nat} {cause : PlannerFault} {state middle final : σ}
    (htaken : downstream.TakesEach (first.map (Order.mk poll)) waits state middle)
    (hrefused : downstream.Answers ⟨poll, refused⟩ (.fatal cause) count middle final)
    (hpatience : ∀ n ∈ count :: waits, n < downstream.patience) :
    downstream.deliver poll (first ++ refused :: rest) state =
      ⟨some (.planner cause), first.length, final⟩ := by
  obtain ⟨hcount, hwaits⟩ := List.forall_mem_cons.mp hpatience
  induction first generalizing waits state with
  | nil =>
    cases htaken
    exact deliver_cons_of_error (submitWithin_of_answers hrefused nofun hcount) rest
  | cons block first ih =>
    cases htaken with
    | next h hrest =>
      obtain ⟨hfirst, hothers⟩ := List.forall_mem_cons.mp hwaits
      rw [List.cons_append, deliver_cons_of_ok (submitWithin_of_answers h nofun hfirst),
        ih hrest (List.forall_mem_cons.mpr ⟨hcount, hothers⟩) hothers]
      rfl

/-- The offers of one block add it to the taken blocks of a journal if it is taken, and nothing
otherwise. -/
theorem journaled_submitWithin_accepted {block : Block α} {offers : Nat} {state next : σ}
    {journal noted : Journal α} {result : Except (Fault α) Unit}
    (h : downstream.journaled.submitWithin poll block offers (state, journal) =
      (result, next, noted)) :
    noted.accepted = journal.accepted ++ takenIf result block := by
  induction offers generalizing state journal with
  | zero =>
    cases h
    exact (List.append_nil _).symm
  | succ offers ih =>
    have hoffer := journaled_offer downstream state journal block
    cases ho : downstream.offer state block with
    | mk answer taken =>
      rw [ho] at hoffer
      cases answer with
      | accepted =>
        rw [submitWithin_accepted offers hoffer] at h
        cases h
        exact Journal.accepted_cons _ journal
      | full =>
        rw [submitWithin_full offers hoffer] at h
        rw [ih h, Journal.accepted_cons, Journal.accepted_cons]
        simp only [Journal.accepted?, Option.toList_none, List.append_nil]
      | fatal cause =>
        rw [submitWithin_fatal offers hoffer] at h
        cases h
        exact Journal.accepted_cons _ journal

/-- The journal of a delivery has the blocks that were taken, whatever the planner says. -/
theorem journaled_deliver_accepted (downstream : Downstream α σ) (poll : UInt32)
    (blocks : List (Block α)) (state : σ) (journal : Journal α) :
    (downstream.journaled.deliver poll blocks (state, journal)).planner.2.accepted =
      journal.accepted ++
        blocks.take (downstream.journaled.deliver poll blocks (state, journal)).taken := by
  induction blocks generalizing state journal with
  | nil => rw [deliver_nil, List.take_nil, List.append_nil]
  | cons block rest ih =>
    rcases hs : downstream.journaled.submit poll block (state, journal) with
      ⟨⟨fault⟩ | ⟨⟨⟩⟩, next, noted⟩
    · have hnoted := journaled_submitWithin_accepted hs
      rw [deliver_cons_of_error hs, List.take_zero]
      exact hnoted
    · have hnoted := journaled_submitWithin_accepted hs
      rw [deliver_cons_of_ok hs, List.take_succ_cons]
      rw [ih next noted, hnoted, List.append_assoc]
      rfl

/-- A planner that takes every block at once and keeps them, the first one first. -/
def recorder : Downstream α (List (Block α)) where
  offer := fun taken block => (.accepted, taken ++ [block])
  wait := fun taken _ => taken
  patience := 1

/-- The recorder takes everything. -/
theorem recorder_deliver (poll : UInt32) (blocks taken : List (Block α)) :
    recorder.deliver poll blocks taken = ⟨none, blocks.length, taken ++ blocks⟩ := by
  induction blocks generalizing taken with
  | nil => rw [deliver_nil, List.append_nil, List.length_nil]
  | cons block rest ih =>
    have hs : recorder.submit poll block taken = (.ok (), taken ++ [block]) := rfl
    rw [deliver_cons_of_ok hs, ih, List.append_assoc, List.singleton_append, List.length_cons]

/-- The recorder takes any orders without waits. -/
theorem recorder_takesEach (orders : List (Order α)) (taken : List (Block α)) :
    recorder.TakesEach orders (List.replicate orders.length 0) taken
      (taken ++ orders.map Order.block) := by
  induction orders generalizing taken with
  | nil =>
    rw [List.map_nil, List.append_nil]
    exact .done taken
  | cons order orders ih =>
    have hrest := ih (taken ++ [order.block])
    rw [List.append_assoc] at hrest
    exact .next (.atOnce rfl) hrest

end Downstream

end Toolpath
