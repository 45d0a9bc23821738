import Toolpath.Proofs.Planner.Delivery

/-!
# Two planners that answer alike

What comes of a delivery depends on the answers alone. Two deliveries of as many blocks to planners
that answer alike, offer by offer, end alike, take as many blocks and offer them in the same order.
Planners may look at all of a block: it is enough that they happen to give the same answers. Only
the answers that were given in the end are compared; that they agree from the beginning follows,
since a journal only ever grows.
-/

namespace Toolpath

variable {α β σ τ : Type}

namespace Journal

/-- What an event shows of an offered block and the answer to it, if the event is an offer. -/
def exchange? (view : Block α → β) : Event α → Option (β × Answer)
  | .offered block answer => some (view block, answer)
  | .waited _ => none

/-- What a journal shows of the blocks that were offered, each with its answer, the first one
first. -/
def exchanges (view : Block α → β) (journal : Journal α) : List (β × Answer) :=
  journal.reverse.filterMap (exchange? view)

/-- Answers to all offers, the first one first. -/
def answers (journal : Journal α) : List Answer := (journal.exchanges fun _ => ()).map Prod.snd

variable {view : Block α → β}

/-- An offer adds what shows of its block, and its answer. -/
theorem exchanges_offered (block : Block α) (answer : Answer) (journal : Journal α) :
    exchanges view (.offered block answer :: journal) =
      journal.exchanges view ++ [(view block, answer)] := by
  rw [exchanges, List.reverse_cons, List.filterMap_append, exchanges]
  rfl

/-- A wait adds nothing. -/
theorem exchanges_waited (poll : UInt32) (journal : Journal α) :
    exchanges view (.waited poll :: journal) = journal.exchanges view := by
  rw [exchanges, List.reverse_cons, List.filterMap_append]
  exact List.append_nil _

/-- An offer adds its answer. -/
theorem answers_offered (block : Block α) (answer : Answer) (journal : Journal α) :
    answers (.offered block answer :: journal) = journal.answers ++ [answer] := by
  rw [answers, exchanges_offered, List.map_append, List.map_singleton, answers]

/-- The answers are part of whatever a journal shows. -/
theorem answers_eq (view : Block α → β) (journal : Journal α) :
    journal.answers = (journal.exchanges view).map Prod.snd := by
  rw [answers, exchanges, exchanges, List.map_filterMap, List.map_filterMap]
  congr 1
  funext event
  cases event <;> rfl

/-- What shows of the blocks that were taken is what shows of those whose answer says so. -/
theorem accepted_eq (view : Block α → β) (journal : Journal α) :
    journal.accepted.map view = (journal.exchanges view).filterMap fun exchange =>
      match exchange.2 with
      | .accepted => some exchange.1
      | _ => none := by
  rw [accepted, exchanges, List.map_filterMap, List.filterMap_filterMap]
  congr 1
  funext event
  rcases event with ⟨block, ⟨⟩ | ⟨⟩ | ⟨cause⟩⟩ | ⟨poll⟩ <;> rfl

/-- A journal that went on from another one has the answers of that in front. -/
theorem answers_prefix {before journal : Journal α} (h : before <:+ journal) :
    before.answers <+: journal.answers := by
  have hevents : before.reverse <+: journal.reverse := List.reverse_prefix.mpr h
  exact (hevents.filterMap _).map _

/-- Two journals note the same answers, offer by offer, as far as both of them go. -/
def SameAnswers (here there : Journal α) : Prop :=
  here.answers <+: there.answers ∨ there.answers <+: here.answers

/-- Where answers are the same in the end, they were the same at any earlier time. -/
theorem SameAnswers.before {here there before before' : Journal α} (h : here.SameAnswers there)
    (hhere : before <:+ here) (hthere : before' <:+ there) : before.SameAnswers before' := by
  have hleft := answers_prefix hhere
  have hright := answers_prefix hthere
  rcases h with h | h
  · exact List.prefix_or_prefix_of_prefix (hleft.trans h) hright
  · exact List.prefix_or_prefix_of_prefix hleft (hright.trans h)

variable {here there : Journal α}

/-- Journals that show the same blocks note the same answers. -/
theorem answers_congr (h : here.exchanges view = there.exchanges view) :
    here.answers = there.answers := by
  rw [answers_eq view, answers_eq view, h]

/-- They note as many taken blocks, and these show the same. -/
theorem accepted_congr (h : here.exchanges view = there.exchanges view) :
    here.accepted.map view = there.accepted.map view := by
  rw [accepted_eq, accepted_eq, h]

/-- Offers of blocks that show the same, with the same answer, keep journals the same. -/
theorem exchanges_offered_congr (h : here.exchanges view = there.exchanges view)
    {block other : Block α} (hblock : view block = view other) (answer : Answer) :
    exchanges view (.offered block answer :: here) =
      exchanges view (.offered other answer :: there) := by
  rw [exchanges_offered, exchanges_offered, h, hblock]

/-- Journals with the same answers so far, whose answers stay the same as far as both of them go,
note the same answer to the next offer. -/
theorem answer_eq_of_sameAnswers (h : here.answers = there.answers) {block other : Block α}
    {answer answer' : Answer}
    (hsame : SameAnswers (.offered block answer :: here) (.offered other answer' :: there)) :
    answer = answer' := by
  have hlength : (there.answers ++ [answer]).length = (there.answers ++ [answer']).length := by
    rw [List.length_append, List.length_append, List.length_singleton, List.length_singleton]
  rw [SameAnswers, answers_offered, answers_offered, h] at hsame
  have heq : there.answers ++ [answer] = there.answers ++ [answer'] :=
    hsame.elim (fun hpart => hpart.eq_of_length hlength)
      fun hpart => (hpart.eq_of_length hlength.symm).symm
  exact List.singleton_inj.mp (List.append_cancel_left heq)

end Journal

namespace Downstream

section Invariant

variable {downstream : Downstream α σ} {Invariant : σ → Prop}

/-- What every offer and every wait keeps, the offers of a block keep. -/
theorem submitWithin_invariant
    (hoffer : ∀ state block, Invariant state → Invariant (downstream.offer state block).2)
    (hwait : ∀ state poll, Invariant state → Invariant (downstream.wait state poll))
    (poll : UInt32) (block : Block α) (offers : Nat) {state : σ} (h : Invariant state) :
    Invariant (downstream.submitWithin poll block offers state).2 := by
  induction offers generalizing state with
  | zero => exact h
  | succ offers ih =>
    have hnext := hoffer state block h
    rcases ho : downstream.offer state block with ⟨⟨⟩ | ⟨⟩ | ⟨cause⟩, next⟩ <;> rw [ho] at hnext
    · rw [submitWithin_accepted offers ho]
      exact hnext
    · rw [submitWithin_full offers ho]
      exact ih (hwait next poll hnext)
    · rw [submitWithin_fatal offers ho]
      exact hnext

/-- What every offer and every wait keeps, a delivery keeps. -/
theorem deliver_invariant
    (hoffer : ∀ state block, Invariant state → Invariant (downstream.offer state block).2)
    (hwait : ∀ state poll, Invariant state → Invariant (downstream.wait state poll))
    (poll : UInt32) (blocks : List (Block α)) {state : σ} (h : Invariant state) :
    Invariant (downstream.deliver poll blocks state).planner := by
  induction blocks generalizing state with
  | nil => exact h
  | cons block rest ih =>
    have hnext : Invariant (downstream.submit poll block state).2 :=
      submitWithin_invariant hoffer hwait poll block _ h
    rcases hs : downstream.submit poll block state with ⟨⟨fault⟩ | ⟨⟨⟩⟩, next⟩ <;> rw [hs] at hnext
    · rw [deliver_cons_of_error hs]
      exact hnext
    · rw [deliver_cons_of_ok hs]
      exact ih hnext

/-- What was noted is still noted after an offer. -/
theorem journaled_offer_suffix (downstream : Downstream α σ) (before : Journal α)
    (state : σ × Journal α) (block : Block α) (h : before <:+ state.2) :
    before <:+ (downstream.journaled.offer state block).2.2 :=
  h.trans (List.suffix_cons _ _)

/-- What was noted is still noted after a wait. -/
theorem journaled_wait_suffix (downstream : Downstream α σ) (before : Journal α)
    (state : σ × Journal α) (poll : UInt32) (h : before <:+ state.2) :
    before <:+ (downstream.journaled.wait state poll).2 :=
  h.trans (List.suffix_cons _ _)

/-- The offers of a block only add to a journal. -/
theorem journaled_submitWithin_suffix (downstream : Downstream α σ) (poll : UInt32)
    (block : Block α) (offers : Nat) (state : σ × Journal α) :
    state.2 <:+ (downstream.journaled.submitWithin poll block offers state).2.2 :=
  submitWithin_invariant (journaled_offer_suffix downstream state.2)
    (journaled_wait_suffix downstream state.2) poll block offers (List.suffix_refl _)

/-- The first offer of a block is noted before all that follows it. -/
theorem journaled_submitWithin_offered (downstream : Downstream α σ) (poll : UInt32)
    (block : Block α) (offers : Nat) (state : σ) (journal : Journal α) :
    (.offered block (downstream.offer state block).1 :: journal) <:+
      (downstream.journaled.submitWithin poll block (offers + 1) (state, journal)).2.2 := by
  have hoffer := journaled_offer downstream state journal block
  rcases ho : downstream.offer state block with ⟨⟨⟩ | ⟨⟩ | ⟨cause⟩, next⟩ <;> rw [ho] at hoffer
  · simp only [submitWithin_accepted offers hoffer, List.suffix_refl]
  · rw [submitWithin_full offers hoffer]
    exact (List.suffix_cons (.waited poll) _).trans
      (journaled_submitWithin_suffix downstream poll block offers (_, .waited poll :: _))
  · simp only [submitWithin_fatal offers hoffer, List.suffix_refl]

/-- A delivery only adds to a journal. -/
theorem journaled_deliver_suffix (downstream : Downstream α σ) (poll : UInt32)
    (blocks : List (Block α)) (state : σ × Journal α) :
    state.2 <:+ (downstream.journaled.deliver poll blocks state).planner.2 :=
  deliver_invariant (journaled_offer_suffix downstream state.2)
    (journaled_wait_suffix downstream state.2) poll blocks (List.suffix_refl _)

/-- The offers of the first block are noted before all that follows them. -/
theorem journaled_deliver_submitted (downstream : Downstream α σ) (poll : UInt32) (block : Block α)
    (rest : List (Block α)) (state : σ × Journal α) :
    (downstream.journaled.submit poll block state).2.2 <:+
      (downstream.journaled.deliver poll (block :: rest) state).planner.2 := by
  rcases hs : downstream.journaled.submit poll block state with ⟨⟨fault⟩ | ⟨⟨⟩⟩, next⟩
  · simp only [deliver_cons_of_error hs, List.suffix_refl]
  · rw [deliver_cons_of_ok hs]
    exact journaled_deliver_suffix downstream poll rest next

end Invariant

variable {here : Downstream α σ} {there : Downstream α τ} {view : Block α → β}

/-- The offers of two blocks that show the same to planners that answer alike end alike, and the
journals show the same. -/
theorem journaled_submitWithin_congr {block other : Block α} (hblock : view block = view other)
    (poll poll' : UInt32) (offers : Nat) {state : σ × Journal α} {state' : τ × Journal α}
    (h : state.2.exchanges view = state'.2.exchanges view)
    (hsame : Journal.SameAnswers (here.journaled.submitWithin poll block offers state).2.2
      (there.journaled.submitWithin poll' other offers state').2.2) :
    (here.journaled.submitWithin poll block offers state).1 =
        (there.journaled.submitWithin poll' other offers state').1 ∧
      (here.journaled.submitWithin poll block offers state).2.2.exchanges view =
        (there.journaled.submitWithin poll' other offers state').2.2.exchanges view := by
  induction offers generalizing state state' with
  | zero => exact ⟨rfl, h⟩
  | succ offers ih =>
    obtain ⟨planner, journal⟩ := state
    obtain ⟨planner', journal'⟩ := state'
    have hoffer := journaled_offer here planner journal block
    have hoffer' := journaled_offer there planner' journal' other
    -- the answers to this offer are part of what is the same in the end
    have hanswer : (here.offer planner block).1 = (there.offer planner' other).1 :=
      Journal.answer_eq_of_sameAnswers (Journal.answers_congr h)
        (hsame.before (journaled_submitWithin_offered here poll block offers planner journal)
          (journaled_submitWithin_offered there poll' other offers planner' journal'))
    have hnoted (answer : Answer) := Journal.exchanges_offered_congr h hblock answer
    rcases ho : here.offer planner block with ⟨answer, next⟩
    rcases ho' : there.offer planner' other with ⟨answer', next'⟩
    rw [ho] at hoffer hanswer
    rw [ho'] at hoffer' hanswer
    obtain rfl : answer = answer' := hanswer
    cases answer with
    | accepted =>
      rw [submitWithin_accepted offers hoffer, submitWithin_accepted offers hoffer']
      exact ⟨rfl, hnoted .accepted⟩
    | full =>
      rw [submitWithin_full offers hoffer, submitWithin_full offers hoffer'] at hsame ⊢
      refine ih ?_ hsame
      have hwaited : Journal.exchanges view (.waited poll :: .offered block .full :: journal) =
          Journal.exchanges view (.waited poll' :: .offered other .full :: journal') := by
        rw [Journal.exchanges_waited, Journal.exchanges_waited, hnoted]
      exact hwaited
    | fatal cause =>
      rw [submitWithin_fatal offers hoffer, submitWithin_fatal offers hoffer']
      exact ⟨rfl, hnoted (.fatal cause)⟩

/-- So do the offers that go on for as long as both planners are waited for. -/
theorem journaled_submit_congr (hpatience : here.patience = there.patience) {block other : Block α}
    (hblock : view block = view other) (poll poll' : UInt32) {state : σ × Journal α}
    {state' : τ × Journal α} (h : state.2.exchanges view = state'.2.exchanges view)
    (hsame : Journal.SameAnswers (here.journaled.submit poll block state).2.2
      (there.journaled.submit poll' other state').2.2) :
    (here.journaled.submit poll block state).1 = (there.journaled.submit poll' other state').1 ∧
      (here.journaled.submit poll block state).2.2.exchanges view =
        (there.journaled.submit poll' other state').2.2.exchanges view := by
  have hjournaled : here.journaled.patience = there.journaled.patience := hpatience
  unfold submit at hsame ⊢
  rw [hjournaled] at hsame ⊢
  exact journaled_submitWithin_congr hblock poll poll' _ h hsame

/-- Deliveries of blocks that show the same to planners that answer alike end alike, take as many
blocks, and the journals show the same. -/
theorem journaled_deliver_congr (hpatience : here.patience = there.patience) (poll poll' : UInt32)
    {blocks others : List (Block α)} (hblocks : blocks.map view = others.map view)
    {state : σ × Journal α} {state' : τ × Journal α}
    (h : state.2.exchanges view = state'.2.exchanges view)
    (hsame : Journal.SameAnswers (here.journaled.deliver poll blocks state).planner.2
      (there.journaled.deliver poll' others state').planner.2) :
    let delivery := here.journaled.deliver poll blocks state
    let delivery' := there.journaled.deliver poll' others state'
    delivery.fault? = delivery'.fault? ∧ delivery.taken = delivery'.taken ∧
      delivery.planner.2.exchanges view = delivery'.planner.2.exchanges view := by
  induction blocks generalizing others state state' with
  | nil =>
    obtain rfl : others = [] := List.map_eq_nil_iff.mp hblocks.symm
    exact ⟨rfl, rfl, h⟩
  | cons block rest ih =>
    obtain ⟨other, others, rfl⟩ : ∃ other rest', others = other :: rest' := by
      cases others with
      | nil => cases hblocks
      | cons other rest' => exact ⟨other, rest', rfl⟩
    obtain ⟨hblock, hrest⟩ := List.cons.inj hblocks
    obtain ⟨hresult, hnoted⟩ := journaled_submit_congr hpatience hblock poll poll' h
      (hsame.before (journaled_deliver_submitted here poll block rest state)
        (journaled_deliver_submitted there poll' other others state'))
    rcases hs : here.journaled.submit poll block state with ⟨result, next⟩
    rcases hs' : there.journaled.submit poll' other state' with ⟨result', next'⟩
    rw [hs, hs'] at hresult hnoted
    obtain rfl : result = result' := hresult
    cases result with
    | error fault =>
      rw [deliver_cons_of_error hs, deliver_cons_of_error hs']
      exact ⟨rfl, rfl, hnoted⟩
    | ok =>
      rw [deliver_cons_of_ok hs, deliver_cons_of_ok hs'] at hsame ⊢
      obtain ⟨hfault, htaken, hexchanges⟩ := ih hrest hnoted hsame
      exact ⟨hfault, congrArg (· + 1) htaken, hexchanges⟩

/-- A planner that answers by a script, whatever blocks it is offered. Its state counts the offers.
-/
def script (answer : Nat → Answer) (patience : Nat) : Downstream α Nat where
  offer asked _ := (answer asked, asked + 1)
  wait asked _ := asked
  patience := patience

/-- A journal of offers to a planner with a script notes the first answers of the script. -/
def Follows (answer : Nat → Answer) (state : Nat × Journal α) : Prop :=
  state.2.answers = (List.range state.1).map answer

/-- Every offer is answered by the script. -/
theorem script_offer_follows (answer : Nat → Answer) (patience : Nat) (state : Nat × Journal α)
    (block : Block α) (h : Follows answer state) :
    Follows answer ((script answer patience).journaled.offer state block).2 := by
  have hanswers : ((script answer patience).journaled.offer state block).2.2.answers =
      state.2.answers ++ [answer state.1] := Journal.answers_offered block _ state.2
  rw [Follows, hanswers, h, ← List.map_singleton, ← List.map_append, ← List.range_succ]
  rfl

/-- A wait goes by without an answer. -/
theorem script_wait_follows (answer : Nat → Answer) (patience : Nat) (state : Nat × Journal α)
    (poll : UInt32) (h : Follows answer state) :
    Follows answer ((script answer patience).journaled.wait state poll) := by
  have hanswers : ((script answer patience).journaled.wait state poll).2.answers =
      state.2.answers := by
    rw [Journal.answers, Journal.answers]
    exact congrArg _ (Journal.exchanges_waited poll state.2)
  rw [Follows, hanswers, h]
  rfl

/-- Journals of the same script have the same answers. -/
theorem Follows.sameAnswers {answer : Nat → Answer} {state state' : Nat × Journal α}
    (h : Follows answer state) (h' : Follows answer state') :
    state.2.SameAnswers state'.2 := by
  have hpart {count more : Nat} (hle : count ≤ more) :
      (List.range count).map answer <+: (List.range more).map answer := by
    have htake := List.take_prefix count (List.range more)
    rw [List.take_range, Nat.min_eq_left hle] at htake
    exact htake.map answer
  rw [Journal.SameAnswers, h, h']
  exact (Nat.le_total state.1 state'.1).imp hpart hpart

end Downstream

end Toolpath
