import Toolpath.Planner.Downstream

/-!
# Journals of what is asked downstream

A journal lists the offers and waits of a dispatcher in order. Keeping one does not change
what lies downstream: the state beside the journal is what it would be without it.
-/

namespace Toolpath

/-- One thing that a dispatcher asked downstream. -/
inductive Event (α : Type) where
  /-- It offered a block and got an answer. -/
  | offered (block : Block α) (answer : Answer)
  /-- It waited for a number of microseconds. -/
  | waited (poll : UInt32)

/-- What happened, the last event first. -/
abbrev Journal (α : Type) := List (Event α)

namespace Journal

variable {α : Type}

/-- The event is an offer. -/
def isOffer : Event α → Bool
  | .offered _ _ => true
  | .waited _ => false

/-- The block of an event, if the planner took one. -/
def accepted? : Event α → Option (Block α)
  | .offered block .accepted => some block
  | _ => none

/-- The length of a wait, if the event is one. -/
def wait? : Event α → Option UInt32
  | .offered _ _ => none
  | .waited poll => some poll

/-- Blocks that the planner took, the first one first. -/
def accepted (journal : Journal α) : List (Block α) :=
  journal.reverse.filterMap accepted?

/-- Number of offers. -/
def offers (journal : Journal α) : Nat := journal.countP isOffer

/-- Waits, the last one first. -/
def waits (journal : Journal α) : List UInt32 := journal.filterMap wait?

end Journal

namespace Downstream

variable {α σ : Type}

/-- The same with a journal of what is asked. -/
def journaled (downstream : Downstream α σ) : Downstream α (σ × Journal α) where
  offer := fun (state, journal) block =>
    let (answer, state) := downstream.offer state block
    (answer, state, .offered block answer :: journal)
  wait := fun (state, journal) poll => (downstream.wait state poll, .waited poll :: journal)
  patience := downstream.patience

/-- An offer is answered as without a journal, and noted. -/
theorem journaled_offer (downstream : Downstream α σ) (state : σ) (journal : Journal α)
    (block : Block α) :
    downstream.journaled.offer (state, journal) block =
      ((downstream.offer state block).1, (downstream.offer state block).2,
        .offered block (downstream.offer state block).1 :: journal) := rfl

end Downstream

end Toolpath
