import Toolpath.Planner.Rehearsal
import Toolpath.Proofs.Planner.Answers

/-!
# Bounded stores that a consumer empties

A depot is a block queue or a lane with a consumer at the other end, who takes blocks out at a
pace of its own: before every offer and during every wait it may take out any number of them. As
long as the consumer never stops for good, every block is taken in the end. Nothing is lost and
nothing overtakes: what was carried out, followed by what is still held, is what was taken.
-/

namespace Toolpath

namespace Store

variable {β : Type}

/-- What a store holds, the oldest first. -/
def toList : Store β → List β
  | record => []
  | queue _ blocks => blocks.toList
  | lane _ blocks => blocks.items

/-- Greatest number of blocks that a store holds while it works: a record holds none, and a
halted queue does not work. -/
def capacity? : Store β → Option Nat
  | record => none
  | queue capacity blocks => if blocks.isHalted then none else some capacity
  | lane slots _ => some (slots - 1)

/-- A working store with room takes a block and keeps it behind the others. -/
theorem offer_of_room {store : Store β} {capacity : Nat} (hc : store.capacity? = some capacity)
    (hroom : store.toList.length < capacity) (block : β) :
    (store.offer block).1 = .accepted ∧
      (store.offer block).2.toList = store.toList ++ [block] ∧
      (store.offer block).2.capacity? = some capacity := by
  cases store with
  | record => cases hc
  | queue size blocks =>
    by_cases hh : blocks.isHalted = true
    · simp only [capacity?, hh, if_true, reduceCtorEq] at hc
    · simp only [capacity?, hh, Bool.false_eq_true, if_false, Option.some.injEq] at hc
      subst hc
      have hlt : blocks.fifo.items.length < size := hroom
      simp only [offer, HaltableQueue.offer, Fifo.push?, hh, Bool.false_eq_true, if_false,
        dif_pos hlt, toList, HaltableQueue.toList, capacity?, and_self]
  | lane slots blocks =>
    simp only [capacity?, Option.some.injEq] at hc
    subst hc
    have hlt : blocks.items.length < slots - 1 := hroom
    simp only [offer, Lane.offer, Fifo.push?, dif_pos hlt, toList, capacity?, and_self]

/-- A working store without room refuses a block for now and stays as it is. -/
theorem offer_of_no_room {store : Store β} {capacity : Nat}
    (hc : store.capacity? = some capacity) (hroom : ¬ store.toList.length < capacity)
    (block : β) : store.offer block = (.full, store) := by
  cases store with
  | record => cases hc
  | queue size blocks =>
    by_cases hh : blocks.isHalted = true
    · simp only [capacity?, hh, if_true, reduceCtorEq] at hc
    · simp only [capacity?, hh, Bool.false_eq_true, if_false, Option.some.injEq] at hc
      subst hc
      have hlt : ¬ blocks.fifo.items.length < size := hroom
      simp only [offer, HaltableQueue.offer, Fifo.push?, hh, Bool.false_eq_true, if_false,
        dif_neg hlt]
  | lane slots blocks =>
    simp only [capacity?, Option.some.injEq] at hc
    subst hc
    have hlt : ¬ blocks.items.length < slots - 1 := hroom
    simp only [offer, Lane.offer, Fifo.push?, dif_neg hlt]

/-- A working store never holds more than it can. -/
theorem length_le_capacity {store : Store β} {capacity : Nat}
    (hc : store.capacity? = some capacity) : store.toList.length ≤ capacity := by
  cases store with
  | record => cases hc
  | queue size blocks =>
    by_cases hh : blocks.isHalted = true
    · simp only [capacity?, hh, if_true, reduceCtorEq] at hc
    · simp only [capacity?, hh, Bool.false_eq_true, if_false, Option.some.injEq] at hc
      exact hc ▸ blocks.fifo.length_le
  | lane slots blocks =>
    simp only [capacity?, Option.some.injEq] at hc
    exact hc ▸ blocks.length_le

/-- The block that is taken out is the oldest one. -/
theorem pop_toList (store : Store β) :
    store.pop.1.toList ++ store.pop.2.toList = store.toList := by
  cases store with
  | record => rfl
  | queue size blocks => exact Fifo.pop_items blocks.fifo
  | lane slots blocks => exact Fifo.pop_items blocks

/-- A store that works goes on working when a block is taken out. -/
theorem pop_capacity? (store : Store β) : store.pop.2.capacity? = store.capacity? := by
  cases store with
  | record => rfl
  | queue size blocks => rfl
  | lane slots blocks => rfl

end Store

/-- A store of blocks with a consumer. -/
structure Depot (α : Type) where
  /-- The store. -/
  store : Store (Block α)
  /-- Offers and waits so far. -/
  moments : Nat
  /-- Blocks that the consumer has taken out, the first one first. -/
  carriedOut : List (Block α)

namespace Depot

variable {α : Type}

/-- Everything that was taken: what is carried out, and then what is held. -/
def received (depot : Depot α) : List (Block α) := depot.carriedOut ++ depot.store.toList

/-- There is room for another block. -/
def HasRoom (capacity : Nat) (depot : Depot α) : Prop :=
  depot.store.toList.length < capacity

/-- The consumer takes the oldest block out, if there is one. -/
def pop (depot : Depot α) : Depot α :=
  { depot with
    store := depot.store.pop.2
    carriedOut := depot.carriedOut ++ depot.store.pop.1.toList }

/-- The consumer takes a number of blocks out. -/
def carryOut : Nat → Depot α → Depot α
  | 0, depot => depot
  | count + 1, depot => carryOut count depot.pop

/-- A moment passes: the consumer takes out as many blocks as its pace says. -/
def pass (pace : Nat → Nat) (depot : Depot α) : Depot α :=
  { depot.carryOut (pace depot.moments) with moments := depot.moments + 1 }

/-- Offer a block to the store. -/
def offer (pace : Nat → Nat) (depot : Depot α) (block : Block α) : Answer × Depot α :=
  let depot := depot.pass pace
  let (answer, store) := depot.store.offer block
  (answer, { depot with store })

/-- The depot as what lies downstream of a dispatcher. -/
def downstream (pace : Nat → Nat) : Downstream α (Depot α) where
  offer := offer pace
  wait := fun depot _ => depot.pass pace
  patience := 1

/-- A block that is taken out of the store is carried out. -/
theorem pop_received (depot : Depot α) : depot.pop.received = depot.received := by
  rw [received, pop, List.append_assoc, depot.store.pop_toList]
  rfl

/-- What the consumer takes out was received. -/
theorem carryOut_received (count : Nat) (depot : Depot α) :
    (depot.carryOut count).received = depot.received := by
  induction count generalizing depot with
  | zero => rfl
  | succ count ih => rw [carryOut, ih, pop_received]

/-- The consumer does not change how much the store can hold. -/
theorem carryOut_capacity? (count : Nat) (depot : Depot α) :
    (depot.carryOut count).store.capacity? = depot.store.capacity? := by
  induction count generalizing depot with
  | zero => rfl
  | succ count ih =>
    rw [carryOut, ih]
    exact depot.store.pop_capacity?

/-- One block fewer is held after one was taken out. -/
theorem pop_length (depot : Depot α) :
    depot.pop.store.toList.length = depot.store.toList.length - 1 := by
  have h := congrArg List.length depot.store.pop_toList
  rw [List.length_append] at h
  have hle : depot.store.pop.1.toList.length ≤ 1 := by
    cases depot.store.pop.1 <;> simp only [Option.toList_none, Option.toList_some,
      List.length_nil, List.length_singleton, Nat.zero_le, Nat.le_refl]
  have hempty : depot.store.pop.1 = none → depot.store.toList = [] := by
    cases hs : depot.store with
    | record => exact fun _ => rfl
    | queue size blocks => exact List.head?_eq_none_iff.mp
    | lane slots blocks => exact List.head?_eq_none_iff.mp
  cases hp : depot.store.pop.1 with
  | none =>
    rw [hp, Option.toList_none, List.length_nil, Nat.zero_add] at h
    rw [hempty hp, List.length_nil] at h ⊢
    exact h
  | some block =>
    rw [hp, Option.toList_some, List.length_singleton] at h
    have hpop : depot.pop.store.toList.length = depot.store.pop.2.toList.length := rfl
    omega

/-- As many blocks fewer are held as were taken out, down to none. -/
theorem carryOut_length (count : Nat) (depot : Depot α) :
    (depot.carryOut count).store.toList.length = depot.store.toList.length - count := by
  induction count generalizing depot with
  | zero => rfl
  | succ count ih =>
    rw [carryOut, ih, pop_length]
    omega

variable {pace : Nat → Nat} {capacity : Nat}

/-- Room stays while a moment passes. -/
theorem HasRoom.pass {depot : Depot α} (h : depot.HasRoom capacity) :
    (depot.pass pace).HasRoom capacity := by
  have hlength := carryOut_length (pace depot.moments) depot
  have hlt : depot.store.toList.length < capacity := h
  have hpass : (depot.carryOut (pace depot.moments)).store.toList.length < capacity := by omega
  exact hpass

/-- A moment at which the consumer takes something out makes room. -/
theorem hasRoom_pass_of_pace {depot : Depot α} (hc : depot.store.capacity? = some capacity)
    (hpositive : 0 < capacity) (hpace : 0 < pace depot.moments) :
    (depot.pass pace).HasRoom capacity := by
  have hle := Store.length_le_capacity hc
  have hlength := carryOut_length (pace depot.moments) depot
  have hpass : (depot.carryOut (pace depot.moments)).store.toList.length < capacity := by omega
  exact hpass

/-- What passing moments carry out was received. -/
theorem pass_received (depot : Depot α) : (depot.pass pace).received = depot.received :=
  carryOut_received (pace depot.moments) depot

/-- Passing moments do not change how much the store can hold. -/
theorem pass_capacity? (depot : Depot α) :
    (depot.pass pace).store.capacity? = depot.store.capacity? :=
  carryOut_capacity? (pace depot.moments) depot

/-- A working depot that has room after the consumer's turn takes the block. -/
theorem offer_of_room {depot : Depot α} (hc : depot.store.capacity? = some capacity)
    (hroom : (depot.pass pace).HasRoom capacity) (block : Block α) :
    ∃ next, (downstream pace).offer depot block = (.accepted, next) ∧
      next.received = depot.received ++ [block] ∧ next.store.capacity? = some capacity := by
  have hpass : (depot.pass pace).store.capacity? = some capacity := (pass_capacity? depot).trans hc
  obtain ⟨hanswer, hlist, hcapacity⟩ := Store.offer_of_room hpass hroom block
  refine ⟨((depot.offer pace block).2), Prod.ext hanswer rfl, ?_, hcapacity⟩
  calc (depot.offer pace block).2.received
      = (depot.pass pace).carriedOut ++ ((depot.pass pace).store.offer block).2.toList := rfl
    _ = (depot.pass pace).received ++ [block] := by rw [hlist, received, List.append_assoc]
    _ = depot.received ++ [block] := by rw [pass_received]

/-- A working depot without room after the consumer's turn refuses the block for now. -/
theorem offer_of_no_room {depot : Depot α} (hc : depot.store.capacity? = some capacity)
    (hroom : ¬ (depot.pass pace).HasRoom capacity) (block : Block α) :
    (downstream pace).offer depot block = (.full, depot.pass pace) := by
  have hpass : (depot.pass pace).store.capacity? = some capacity := (pass_capacity? depot).trans hc
  have hoffer := Store.offer_of_no_room hpass hroom block
  simp only [downstream, offer, hoffer]

/-- A depot takes a block in the end, if it has room or its consumer takes something out within
some moments. -/
theorem answers_accepted {order : Order α} (hpositive : 0 < capacity) (ahead : Nat) :
    ∀ depot : Depot α, depot.store.capacity? = some capacity →
      (depot.HasRoom capacity ∨ ∃ k < ahead, 0 < pace (depot.moments + k)) →
      ∃ waits next, (downstream pace).Answers order .accepted waits depot next ∧
        next.received = depot.received ++ [order.block] ∧
        next.store.capacity? = some capacity := by
  induction ahead using Nat.strongRecOn with
  | ind ahead ih =>
    intro depot hc hahead
    by_cases hroom : (depot.pass pace).HasRoom capacity
    · obtain ⟨next, hoffer, hreceived, hcapacity⟩ := offer_of_room hc hroom order.block
      exact ⟨0, next, .atOnce hoffer, hreceived, hcapacity⟩
    · have hoffer := offer_of_no_room hc hroom order.block
      rcases hahead with hnow | ⟨k, hk, hpace⟩
      · exact absurd hnow.pass hroom
      · -- The consumer idles at this moment, so its next turn is the wait or comes later.
        have hk0 : k ≠ 0 := by
          rintro rfl
          exact hroom (hasRoom_pass_of_pace hc hpositive hpace)
        have hpassed : (depot.pass pace).store.capacity? = some capacity :=
          (pass_capacity? depot).trans hc
        have hwaited : ((depot.pass pace).pass pace).store.capacity? = some capacity :=
          (pass_capacity? _).trans hpassed
        have hnext : ((depot.pass pace).pass pace).HasRoom capacity ∨
            ∃ j < ahead - 2, 0 < pace (((depot.pass pace).pass pace).moments + j) := by
          by_cases hk1 : k = 1
          · subst hk1
            exact .inl (hasRoom_pass_of_pace hpassed hpositive hpace)
          · refine .inr ⟨k - 2, by omega, ?_⟩
            have hmoments : ((depot.pass pace).pass pace).moments + (k - 2) =
                depot.moments + k := by
              have hstep : ((depot.pass pace).pass pace).moments = depot.moments + 1 + 1 := rfl
              omega
            rwa [hmoments]
        obtain ⟨waits, next, hanswers, hreceived, hcapacity⟩ :=
          ih (ahead - 2) (by omega) _ hwaited hnext
        refine ⟨waits + 1, next, .afterWait hoffer hanswers, ?_, hcapacity⟩
        rw [hreceived, pass_received, pass_received]

/-- A depot whose consumer never stops for good takes any orders, each after some number of
waits, and in their order. -/
theorem takesEach (hpositive : 0 < capacity) (hpace : ∀ n, ∃ m ≥ n, 0 < pace m)
    (orders : List (Order α)) :
    ∀ depot : Depot α, depot.store.capacity? = some capacity →
      ∃ waits final, (downstream pace).TakesEach orders waits depot final ∧
        final.received = depot.received ++ orders.map Order.block := by
  induction orders with
  | nil =>
    intro depot _
    exact ⟨[], depot, .done depot, (List.append_nil _).symm⟩
  | cons order rest ih =>
    intro depot hc
    obtain ⟨m, hm, hpositivePace⟩ := hpace depot.moments
    have hahead : ∃ k < m - depot.moments + 1, 0 < pace (depot.moments + k) :=
      ⟨m - depot.moments, Nat.lt_succ_self _, by rwa [Nat.add_sub_cancel' hm]⟩
    obtain ⟨waits, taken, hanswers, htaken, hcapacity⟩ :=
      answers_accepted hpositive _ depot hc (.inr hahead)
    obtain ⟨others, final, hrest, hfinal⟩ := ih taken hcapacity
    refine ⟨waits :: others, final, .next hanswers hrest, ?_⟩
    rw [hfinal, htaken, List.map_cons, List.append_assoc, List.singleton_append]

end Depot

end Toolpath
