import Mathlib.Data.List.Induction
import Toolpath.Planner.Fifo

/-!
# History of a block queue

A queue is used in any order: items are offered and taken out, it is looked at, halted, resumed and
cleared. A log of these uses tells by itself whether the queue is halted, which items it took since
it was last cleared and which of them were taken out again. The queue holds the others, in the order
in which it took them. Each use keeps this, and so does a whole history.
-/

namespace Toolpath

/-- A use of a block queue. -/
inductive QueueUse (β : Type) where
  /-- Offer an item. -/
  | offer (item : β)
  /-- Take the oldest item out. -/
  | pop
  /-- Look at the oldest item. -/
  | front
  /-- Look at all items. -/
  | list
  /-- Refuse everything from now on. -/
  | halt
  /-- Accept items again. -/
  | resume
  /-- Drop every item. -/
  | clear

namespace QueueUse

variable {β : Type}

/-- The use halts the queue or lets it resume. -/
def isSwitch : QueueUse β → Bool
  | .halt | .resume => true
  | _ => false

/-- The use lets no item go. -/
def keeps : QueueUse β → Bool
  | .pop | .clear => false
  | _ => true

end QueueUse

/-- What a queue gives back to a use. -/
inductive QueueReply (β : Type) where
  /-- Answer to an offer. -/
  | answer (answer : Answer)
  /-- The oldest item, if there is one. -/
  | item (item : Option β)
  /-- All items, the oldest first. -/
  | items (items : List β)
  /-- Nothing. -/
  | done

/-- One line of a log: a use and what was given back. -/
structure QueueEntry (β : Type) where
  /-- The use. -/
  use : QueueUse β
  /-- What was given back. -/
  reply : QueueReply β

/-- What happened to a queue, the first use first. -/
abbrev QueueLog (β : Type) := List (QueueEntry β)

namespace QueueEntry

variable {β : Type}

/-- What a use says about halting, if anything. -/
def switch? : QueueEntry β → Option Bool
  | ⟨.halt, _⟩ => some true
  | ⟨.resume, _⟩ => some false
  | _ => none

/-- The use drops every item. -/
def isClear : QueueEntry β → Bool
  | ⟨.clear, _⟩ => true
  | _ => false

/-- The item that was taken from the one who offered it. -/
def accepted? : QueueEntry β → Option β
  | ⟨.offer item, .answer .accepted⟩ => some item
  | _ => none

/-- The item that was taken out. -/
def popped? : QueueEntry β → Option β
  | ⟨.pop, .item item⟩ => item
  | _ => none

end QueueEntry

namespace QueueLog

variable {β : Type}

/-- The queue was halted and not resumed since. -/
def halted (log : QueueLog β) : Bool := (log.filterMap QueueEntry.switch?).getLast?.getD false

/-- What happened since everything was dropped. -/
def sinceClear (log : QueueLog β) : QueueLog β :=
  (log.reverse.takeWhile fun entry => !entry.isClear).reverse

/-- Items that were accepted since everything was dropped, the first one first. -/
def accepted (log : QueueLog β) : List β := log.sinceClear.filterMap QueueEntry.accepted?

/-- Items that were taken out since everything was dropped, the first one first. -/
def popped (log : QueueLog β) : List β := log.sinceClear.filterMap QueueEntry.popped?

/-- The last use decides about halting if it says anything about it. -/
theorem halted_concat (log : QueueLog β) (entry : QueueEntry β) :
    halted (log ++ [entry]) = entry.switch?.getD (halted log) := by
  rw [halted, List.filterMap_append, List.getLast?_append, halted]
  cases h : entry.switch? <;> simp [h]

/-- A use that drops nothing happened since everything was dropped. -/
theorem sinceClear_concat (log : QueueLog β) {entry : QueueEntry β} (h : entry.isClear = false) :
    sinceClear (log ++ [entry]) = sinceClear log ++ [entry] := by
  rw [sinceClear, List.reverse_append, List.reverse_singleton, List.singleton_append,
    List.takeWhile_cons_of_pos (by rw [h]; rfl), List.reverse_cons, sinceClear]

/-- Nothing has happened yet since a use that drops everything. -/
theorem sinceClear_concat_clear (log : QueueLog β) (reply : QueueReply β) :
    sinceClear (log ++ [⟨.clear, reply⟩]) = [] := by
  rw [sinceClear, List.reverse_append, List.reverse_singleton, List.singleton_append,
    List.takeWhile_cons_of_neg (by exact Bool.false_ne_true), List.reverse_nil]

/-- An accepted item stands behind those accepted before. -/
theorem accepted_concat (log : QueueLog β) {entry : QueueEntry β} (h : entry.isClear = false) :
    accepted (log ++ [entry]) = accepted log ++ entry.accepted?.toList := by
  rw [accepted, sinceClear_concat log h, List.filterMap_append, accepted]
  cases he : entry.accepted? <;> simp [he]

/-- An item that is taken out stands behind those taken out before. -/
theorem popped_concat (log : QueueLog β) {entry : QueueEntry β} (h : entry.isClear = false) :
    popped (log ++ [entry]) = popped log ++ entry.popped?.toList := by
  rw [popped, sinceClear_concat log h, List.filterMap_append, popped]
  cases he : entry.popped? <;> simp [he]

end QueueLog

namespace HaltableQueue

variable {β : Type} {capacity : Nat}

/-- Use a queue once. -/
def use (queue : HaltableQueue β capacity) : QueueUse β → QueueReply β × HaltableQueue β capacity
  | .offer item => (.answer (queue.offer item).1, (queue.offer item).2)
  | .pop => (.item queue.pop.1, queue.pop.2)
  | .front => (.item queue.front?, queue)
  | .list => (.items queue.toList, queue)
  | .halt => (.done, queue.halt)
  | .resume => (.done, queue.resume)
  | .clear => (.done, queue.clear)

/-- Use a queue again and again, and keep a log. -/
def useAll (queue : HaltableQueue β capacity) (uses : List (QueueUse β)) :
    QueueLog β × HaltableQueue β capacity :=
  uses.foldl (fun past use => (past.1 ++ [⟨use, (past.2.use use).1⟩], (past.2.use use).2))
    ([], queue)

/-- What a new queue has behind it after some uses, and what it has become. -/
theorem useAll_concat (queue : HaltableQueue β capacity) (uses : List (QueueUse β))
    (use : QueueUse β) :
    queue.useAll (uses ++ [use]) =
      ((queue.useAll uses).1 ++ [⟨use, ((queue.useAll uses).2.use use).1⟩],
        ((queue.useAll uses).2.use use).2) := by
  rw [useAll, List.foldl_append]
  rfl

/-- A halted queue refuses an item for good, full or not; a running one has no room exactly if it
holds as many as it can, and takes the item behind the others otherwise. -/
theorem offer_cases (queue : HaltableQueue β capacity) (item : β) :
    (queue.isHalted = true ∧ queue.offer item = (.fatal .halted, queue)) ∨
    (queue.isHalted = false ∧ queue.length = capacity ∧ queue.offer item = (.full, queue)) ∨
    (queue.isHalted = false ∧ queue.length < capacity ∧
      ∃ next, queue.offer item = (.accepted, next) ∧ next.toList = queue.toList ++ [item] ∧
        next.isHalted = false) := by
  cases hh : queue.isHalted with
  | true => exact .inl ⟨rfl, if_pos hh⟩
  | false =>
    refine .inr ?_
    have hrunning : ¬ queue.isHalted = true := by
      rw [hh]
      exact Bool.false_ne_true
    rw [offer, if_neg hrunning]
    cases hp : queue.fifo.push? item with
    | none =>
      have hfull := (Fifo.push?_eq_none_iff queue.fifo item).mp hp
      exact .inl ⟨rfl, of_decide_eq_true hfull, rfl⟩
    | some fifo =>
      refine .inr ⟨rfl, ?_, _, rfl, Fifo.push?_items hp, hh⟩
      have hroom : ¬ queue.fifo.isFull = true := by
        rw [← Fifo.push?_eq_none_iff queue.fifo item, hp]
        exact Option.some_ne_none fifo
      exact Nat.lt_of_le_of_ne queue.fifo.length_le fun hlength =>
        hroom (decide_eq_true hlength)

/-- Being halted wins over being full, and only a queue that holds as many as it can is full. -/
theorem offer_answer (queue : HaltableQueue β capacity) (item : β) :
    (queue.offer item).1 =
      if queue.isHalted then .fatal .halted
      else if queue.length = capacity then .full
      else .accepted := by
  rcases queue.offer_cases item with
    ⟨hhalted, hoffer⟩ | ⟨hhalted, hfull, hoffer⟩ | ⟨hhalted, hroom, next, hoffer, -, -⟩
  · rw [hoffer, hhalted, if_pos rfl]
  · rw [hoffer, hhalted, if_neg Bool.false_ne_true, if_pos hfull]
  · rw [hoffer, hhalted, if_neg Bool.false_ne_true, if_neg (Nat.ne_of_lt hroom)]

/-- A queue is as its log tells: halted or not, and with the accepted items that were not taken out,
in their order. -/
structure Told (log : QueueLog β) (queue : HaltableQueue β capacity) : Prop where
  /-- The log tells whether the queue is halted. -/
  halted : queue.isHalted = log.halted
  /-- Taken out, and then held, is what was accepted. -/
  order : log.popped ++ queue.toList = log.accepted

/-- A new queue is as an empty log tells. -/
theorem told_empty : Told [] (empty : HaltableQueue β capacity) := ⟨rfl, rfl⟩

/-- A use that drops nothing keeps a queue as its log tells, if what it takes out and leaves is what
was held and what it accepts. -/
theorem Told.concat {log : QueueLog β} {queue next : HaltableQueue β capacity}
    (h : Told log queue) {entry : QueueEntry β} (hclear : entry.isClear = false)
    (hhalted : next.isHalted = entry.switch?.getD queue.isHalted)
    (hheld : entry.popped?.toList ++ next.toList = queue.toList ++ entry.accepted?.toList) :
    Told (log ++ [entry]) next := by
  constructor
  · rw [QueueLog.halted_concat, hhalted, h.halted]
  · rw [QueueLog.popped_concat log hclear, QueueLog.accepted_concat log hclear, List.append_assoc,
      hheld, ← h.order, List.append_assoc]

/-- Each use keeps a queue as its log tells. -/
theorem Told.use {log : QueueLog β} {queue : HaltableQueue β capacity} (h : Told log queue)
    (use : QueueUse β) : Told (log ++ [⟨use, (queue.use use).1⟩]) (queue.use use).2 := by
  cases use with
  | offer item =>
    rcases queue.offer_cases item with
      ⟨-, hoffer⟩ | ⟨-, -, hoffer⟩ | ⟨hhalted, -, next, hoffer, hnext, hrunning⟩
    · rw [HaltableQueue.use, hoffer]
      exact h.concat rfl rfl (List.append_nil _).symm
    · rw [HaltableQueue.use, hoffer]
      exact h.concat rfl rfl (List.append_nil _).symm
    · rw [HaltableQueue.use, hoffer]
      exact h.concat rfl (hrunning.trans hhalted.symm) hnext
  | pop => exact h.concat rfl rfl ((Fifo.pop_items queue.fifo).trans (List.append_nil _).symm)
  | front => exact h.concat rfl rfl (List.append_nil _).symm
  | list => exact h.concat rfl rfl (List.append_nil _).symm
  | halt => exact h.concat rfl rfl (List.append_nil _).symm
  | resume => exact h.concat rfl rfl (List.append_nil _).symm
  | clear =>
    constructor
    · rw [QueueLog.halted_concat]
      exact h.halted
    · rw [QueueLog.popped, QueueLog.accepted, HaltableQueue.use, QueueLog.sinceClear_concat_clear]
      rfl

/-- A whole history keeps a queue as its log tells. -/
theorem told_useAll (uses : List (QueueUse β)) :
    Told ((empty : HaltableQueue β capacity).useAll uses).1
      ((empty : HaltableQueue β capacity).useAll uses).2 := by
  induction uses using List.reverseRecOn with
  | nil => exact told_empty
  | append_singleton uses use ih =>
    rw [useAll_concat]
    exact ih.use use

/-- Halting and resuming do not touch what a queue holds. -/
theorem use_toList_of_isSwitch (queue : HaltableQueue β capacity) {use : QueueUse β}
    (h : use.isSwitch = true) : (queue.use use).2.toList = queue.toList := by
  cases use with
  | halt | resume => rfl
  | offer _ | pop | front | list | clear => cases h

/-- A use that lets no item go leaves the items where they are, and may put one behind them. -/
theorem use_toList_of_keeps (queue : HaltableQueue β capacity) {use : QueueUse β}
    (h : use.keeps = true) : queue.toList <+: (queue.use use).2.toList := by
  cases use with
  | offer item =>
    rcases queue.offer_cases item with
      ⟨-, hoffer⟩ | ⟨-, -, hoffer⟩ | ⟨-, -, next, hoffer, hnext, -⟩
    · simp only [HaltableQueue.use, hoffer, List.prefix_rfl]
    · simp only [HaltableQueue.use, hoffer, List.prefix_rfl]
    · simp only [HaltableQueue.use, hoffer, hnext, List.prefix_append]
  | front | list | halt | resume => exact List.prefix_rfl
  | pop | clear => cases h

/-- What each of some uses keeps, all of them together keep. -/
theorem useAll_invariant {allowed : QueueUse β → Bool} {motive : HaltableQueue β capacity → Prop}
    (hstep : ∀ queue use, allowed use = true → motive queue → motive (queue.use use).2)
    {queue : HaltableQueue β capacity} {uses : List (QueueUse β)}
    (h : ∀ use ∈ uses, allowed use = true) (hstart : motive queue) :
    motive (queue.useAll uses).2 := by
  induction uses using List.reverseRecOn with
  | nil => exact hstart
  | append_singleton uses use ih =>
    obtain ⟨huses, huse⟩ := List.forall_mem_append.mp h
    rw [useAll_concat]
    exact hstep _ use (huse use List.mem_cons_self) (ih huses)

/-- However often a queue is halted and resumed, it holds what it held. -/
theorem useAll_toList_of_isSwitch (queue : HaltableQueue β capacity) {uses : List (QueueUse β)}
    (h : ∀ use ∈ uses, use.isSwitch = true) : (queue.useAll uses).2.toList = queue.toList :=
  useAll_invariant (motive := fun next => next.toList = queue.toList)
    (fun middle _ hswitch hheld => (middle.use_toList_of_isSwitch hswitch).trans hheld) h rfl

/-- What stands first in a queue is what the next pop takes out, whatever the queue is used for
before, unless it is cleared. -/
theorem pop_of_front {queue : HaltableQueue β capacity} {item : β}
    (hfront : queue.front? = some item) {uses : List (QueueUse β)}
    (h : ∀ use ∈ uses, use.keeps = true) : (queue.useAll uses).2.pop.1 = some item := by
  have hheld : queue.toList <+: (queue.useAll uses).2.toList :=
    useAll_invariant (motive := fun next => queue.toList <+: next.toList)
      (fun middle _ hkeeps hheld => hheld.trans (middle.use_toList_of_keeps hkeeps)) h
      List.prefix_rfl
  exact List.singleton_prefix_iff_head?_eq_some.mp
    ((List.singleton_prefix_iff_head?_eq_some.mpr hfront).trans hheld)

end HaltableQueue

end Toolpath
