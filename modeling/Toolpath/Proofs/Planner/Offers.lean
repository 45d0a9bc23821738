import Toolpath.Proofs.Planner.Delivery

/-!
# What is offered

A planner is offered nothing but the blocks of what is performed, whether it takes them, is full or
refuses them for good. A property that these blocks share is therefore shared by all that a journal
says was offered.
-/

namespace Toolpath

variable {α σ : Type}

namespace Journal

/-- Every block that was offered has a property. -/
def OffersOnly (Allowed : Block α → Prop) (journal : Journal α) : Prop :=
  ∀ block answer, Event.offered block answer ∈ journal → Allowed block

variable {Allowed : Block α → Prop} {journal : Journal α}

/-- Nothing is offered in an empty journal. -/
theorem offersOnly_nil : OffersOnly Allowed [] := fun _ _ => nofun

/-- An offer of an allowed block is allowed. -/
theorem OffersOnly.offer {block : Block α} (hblock : Allowed block) (answer : Answer)
    (h : journal.OffersOnly Allowed) : OffersOnly Allowed (.offered block answer :: journal) := by
  intro offered reaction hmem
  rcases List.mem_cons.mp hmem with heq | hbefore
  · cases heq
    exact hblock
  · exact h offered reaction hbefore

/-- A wait offers nothing. -/
theorem OffersOnly.wait (poll : UInt32) (h : journal.OffersOnly Allowed) :
    OffersOnly Allowed (.waited poll :: journal) := by
  intro offered reaction hmem
  rcases List.mem_cons.mp hmem with heq | hbefore
  · cases heq
  · exact h offered reaction hbefore

end Journal

namespace Downstream

variable {downstream : Downstream α σ} {Allowed : Block α → Prop} {journal : Journal α}

/-- The offers of an allowed block are allowed. -/
theorem journaled_submitWithin_offersOnly {block : Block α} (hblock : Allowed block)
    (poll : UInt32) (offers : Nat) (state : σ) (h : journal.OffersOnly Allowed) :
    (downstream.journaled.submitWithin poll block offers (state, journal)).2.2.OffersOnly
      Allowed := by
  induction offers generalizing state journal with
  | zero => exact h
  | succ offers ih =>
    have hoffer := journaled_offer downstream state journal block
    have hnoted := h.offer hblock (downstream.offer state block).1
    cases ho : downstream.offer state block with
    | mk answer next =>
      rw [ho] at hoffer hnoted
      cases answer with
      | accepted =>
        rw [submitWithin_accepted offers hoffer]
        exact hnoted
      | full =>
        rw [submitWithin_full offers hoffer]
        exact ih _ (hnoted.wait poll)
      | fatal cause =>
        rw [submitWithin_fatal offers hoffer]
        exact hnoted

/-- A delivery of allowed blocks offers allowed blocks only. -/
theorem journaled_deliver_offersOnly (poll : UInt32) {blocks : List (Block α)}
    (hblocks : ∀ block ∈ blocks, Allowed block) (state : σ) (h : journal.OffersOnly Allowed) :
    (downstream.journaled.deliver poll blocks (state, journal)).planner.2.OffersOnly Allowed := by
  induction blocks generalizing state journal with
  | nil => exact h
  | cons block rest ih =>
    obtain ⟨hblock, hrest⟩ := List.forall_mem_cons.mp hblocks
    have hnoted : (downstream.journaled.submit poll block (state, journal)).2.2.OffersOnly
        Allowed := journaled_submitWithin_offersOnly hblock poll _ state h
    rcases hs : downstream.journaled.submit poll block (state, journal) with
      ⟨⟨fault⟩ | ⟨⟨⟩⟩, next, noted⟩
    · rw [deliver_cons_of_error hs]
      rw [hs] at hnoted
      exact hnoted
    · rw [deliver_cons_of_ok hs]
      rw [hs] at hnoted
      exact ih hrest next hnoted

end Downstream

end Toolpath
