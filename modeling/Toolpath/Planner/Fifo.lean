import Toolpath.Planner.Downstream

/-!
# Bounded queues of blocks

A first-in first-out store of fixed capacity. A block queue can be halted: it then refuses
every block for good, whether it is full or not, and keeps what it holds until it is told to
resume. A lane between one sender and one receiver has no such switch, and keeps one of its
slots free.
-/

namespace Toolpath

/-- At most `capacity` items, the oldest first. -/
structure Fifo (β : Type) (capacity : Nat) where
  /-- The items, the oldest first. -/
  items : List β
  /-- The capacity is never exceeded. -/
  length_le : items.length ≤ capacity

namespace Fifo

variable {β : Type} {capacity : Nat}

/-- No items. -/
def empty : Fifo β capacity := ⟨[], Nat.zero_le _⟩

/-- Number of items. -/
def length (fifo : Fifo β capacity) : Nat := fifo.items.length

/-- There are no items. -/
def isEmpty (fifo : Fifo β capacity) : Bool := fifo.items.isEmpty

/-- There is no room for another item. -/
def isFull (fifo : Fifo β capacity) : Bool := fifo.length = capacity

/-- Put an item behind the others, if there is room. -/
def push? (fifo : Fifo β capacity) (item : β) : Option (Fifo β capacity) :=
  if h : fifo.items.length < capacity then
    some ⟨fifo.items ++ [item], by rw [List.length_append]; exact h⟩
  else none

/-- The oldest item. -/
def front? (fifo : Fifo β capacity) : Option β := fifo.items.head?

/-- Everything but the oldest item. -/
def dropFront (fifo : Fifo β capacity) : Fifo β capacity :=
  ⟨fifo.items.tail, by
    rw [List.length_tail]
    exact Nat.le_trans (Nat.sub_le _ _) fifo.length_le⟩

/-- Take the oldest item out. -/
def pop (fifo : Fifo β capacity) : Option β × Fifo β capacity := (fifo.front?, fifo.dropFront)

/-- A pushed item stands last. -/
theorem push?_items {fifo next : Fifo β capacity} {item : β} (h : fifo.push? item = some next) :
    next.items = fifo.items ++ [item] := by
  unfold push? at h
  split at h
  · cases h
    rfl
  · cases h

/-- An item finds no room exactly when the capacity is reached. -/
theorem push?_eq_none_iff (fifo : Fifo β capacity) (item : β) :
    fifo.push? item = none ↔ fifo.isFull = true := by
  have hle := fifo.length_le
  unfold push? isFull length
  split
  · simp only [decide_eq_true_eq]
    constructor
    · intro h
      cases h
    · omega
  · simp only [decide_eq_true_eq, true_iff]
    omega

/-- The oldest item and the rest make up the whole. -/
theorem pop_items (fifo : Fifo β capacity) :
    (fifo.pop).1.toList ++ (fifo.pop).2.items = fifo.items := by
  cases h : fifo.items with
  | nil => simp only [pop, front?, dropFront, h, List.head?_nil, List.tail_nil,
      Option.toList_none, List.append_nil]
  | cons first rest => simp only [pop, front?, dropFront, h, List.head?_cons, List.tail_cons,
      Option.toList_some, List.singleton_append]

end Fifo

/-- A bounded queue that can be halted. -/
structure HaltableQueue (β : Type) (capacity : Nat) where
  /-- What the queue holds. -/
  fifo : Fifo β capacity
  /-- The queue refuses every block for good. -/
  isHalted : Bool

namespace HaltableQueue

variable {β : Type} {capacity : Nat}

/-- An empty running queue. -/
def empty : HaltableQueue β capacity := ⟨Fifo.empty, false⟩

/-- Offer an item: a halted queue refuses it for good, a full one for now. -/
def offer (queue : HaltableQueue β capacity) (item : β) : Answer × HaltableQueue β capacity :=
  if queue.isHalted then (.fatal .halted, queue)
  else
    match queue.fifo.push? item with
    | some fifo => (.accepted, { queue with fifo })
    | none => (.full, queue)

/-- Take the oldest item out, also while halted. -/
def pop (queue : HaltableQueue β capacity) : Option β × HaltableQueue β capacity :=
  (queue.fifo.front?, { queue with fifo := queue.fifo.dropFront })

/-- The item that the next pop takes out. -/
def front? (queue : HaltableQueue β capacity) : Option β := queue.fifo.front?

/-- The items, the oldest first. -/
def toList (queue : HaltableQueue β capacity) : List β := queue.fifo.items

/-- Number of items. -/
def length (queue : HaltableQueue β capacity) : Nat := queue.fifo.length

/-- There are no items. -/
def isEmpty (queue : HaltableQueue β capacity) : Bool := queue.fifo.isEmpty

/-- There is no room for another item. -/
def isFull (queue : HaltableQueue β capacity) : Bool := queue.fifo.isFull

/-- Refuse everything from now on. -/
def halt (queue : HaltableQueue β capacity) : HaltableQueue β capacity :=
  { queue with isHalted := true }

/-- Accept items again. -/
def resume (queue : HaltableQueue β capacity) : HaltableQueue β capacity :=
  { queue with isHalted := false }

/-- Drop every item; a halted queue stays halted. -/
def clear (queue : HaltableQueue β capacity) : HaltableQueue β capacity :=
  { queue with fifo := Fifo.empty }

/-- A refused item changes nothing. -/
theorem offer_of_not_accepted (queue : HaltableQueue β capacity) (item : β)
    (h : (queue.offer item).1 ≠ .accepted) : (queue.offer item).2 = queue := by
  unfold offer at h ⊢
  by_cases hh : queue.isHalted = true
  · rw [if_pos hh]
  · rw [if_neg hh] at h ⊢
    cases hp : queue.fifo.push? item with
    | some fifo =>
      rw [hp] at h
      exact absurd rfl h
    | none => rfl

end HaltableQueue

/-- A lane from one sender to one receiver with the given number of slots, one of which is
always free. -/
abbrev Lane (β : Type) (slots : Nat) := Fifo β (slots - 1)

/-- Offer an item to a lane, which is never halted. -/
def Lane.offer {β : Type} {slots : Nat} (lane : Lane β slots) (item : β) :
    Answer × Lane β slots :=
  match lane.push? item with
  | some next => (.accepted, next)
  | none => (.full, lane)

end Toolpath
