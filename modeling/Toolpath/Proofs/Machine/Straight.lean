import Mathlib.Analysis.InnerProductSpace.PiL2
import Toolpath.Proofs.Machine.Reachable
import Toolpath.Proofs.Machine.Refusal
import Toolpath.Proofs.Move.Cutting
import Toolpath.Proofs.Planner.Offers

/-!
# Straight moves are bounded from end to end

In exact arithmetic a straight instruction leads through waypoints that share its way equally, as
few as the greatest length of a segment allows. No block that is offered for it is longer than such
a length and the least move together: waypoints are passed over only while they are near to where
the tool was last sent.
-/

namespace Toolpath

variable {σ τ : Type}

namespace Machine

/-- A request offers nothing but its blocks. -/
theorem perform_offersOnly {α : Type} [Scalar α] (downstream : Downstream α σ)
    {Allowed : Block α → Prop} {machine : Machine α (σ × Journal α)} {request : Request α}
    (hblocks : ∀ block ∈ machine.blocks request, Allowed block)
    (h : machine.journal.OffersOnly Allowed) :
    (machine.perform downstream.journaled request).2.journal.OffersOnly Allowed := by
  rw [perform_eq]
  exact Downstream.journaled_deliver_offersOnly machine.dispatcher.poll hblocks _ h

/-- The length of a block is that of a leg. -/
theorem exists_leg_of_mem_blocks {α : Type} [Scalar α] {machine : Machine α σ}
    {request : Request α} {block : Block α} (h : block ∈ machine.blocks request) :
    ∃ leg ∈ machine.legs request, block.length = leg.length := by
  obtain ⟨leg, hleg, rfl⟩ := List.mem_map.mp h
  exact ⟨leg, hleg, rfl⟩

/-- Straight moves are bounded from end to end. In exact arithmetic, whatever state requests have
led to with a gap below the least move, an instruction in a straight mode leads along a line whose
segments are as few as their greatest length allows. Each of its waypoints, counted from the
commanded position, is one equal share of the way beyond the one before. Every block that is offered
for the instruction, whatever the planner answers, is shorter than the greatest length of a segment
and the least move together. -/
theorem obey_straight (downstream : Downstream ℝ σ) (planner : σ) {machine : Machine ℝ τ}
    {instruction : Instruction ℝ} (hreachable : machine.Reachable)
    (hnear : machine.gap < leastMove)
    (hmode : (machine.program.withModes instruction).mode = .seek ∨
      (machine.program.withModes instruction).mode = .feed)
    (hlength : 0 < (machine.program.position.vectorTo
      ((machine.program.withModes instruction).target instruction)).norm)
    (hcount : (machine.program.position.vectorTo
      ((machine.program.withModes instruction).target instruction)).norm /
        machine.settings.maxLineSegment ≤ 2 ^ 32 - 1) :
    let start := machine.program.position
    let target := (machine.program.withModes instruction).target instruction
    let most := machine.settings.maxLineSegment
    let waypoints := machine.course (.obey instruction)
    let outcome := (machine.onto (planner, [])).obey downstream.journaled instruction
    ∃ rate, waypoints = WaypointSupply.toList (LineWalk.cut start target rate most) ∧
    ∃ segments : ℕ, waypoints.length = segments ∧
      (∀ tally, outcome.1 = .ok tally → tally.waypoints = segments) ∧
      IsLeast {count : ℕ | 1 ≤ count ∧ (start.vectorTo target).norm / count ≤ most} segments ∧
      List.IsChain
        (fun here next : PerAxis ℝ => ∀ axis, next.get axis - here.get axis =
          (target.get axis - start.get axis) / segments)
        (start :: waypoints.map Waypoint.point) ∧
      ∀ block answer, Event.offered block answer ∈ outcome.2.journal →
        block.length < most + leastMove := by
  intro start target most waypoints outcome
  have hmost : 0 < most := hreachable.exact_maxLineSegment_pos
  obtain ⟨rate, hcourse⟩ : ∃ rate,
      waypoints = WaypointSupply.toList (LineWalk.cut start target rate most) :=
    course_of_straight hmode
  have hsegments : waypoints.length = (LineWalk.cut start target rate most).segments.toNat := by
    rw [hcourse, LineWalk.cut_toList, List.length_map, List.length_range']
  refine ⟨rate, hcourse, _, hsegments, fun tally hok => ?_,
    LineWalk.exact_cut_isLeast rate hlength hmost hcount, ?_, ?_⟩
  · rw [(obey_of_ok hok).1, ← hsegments]
    rfl
  · rw [hcourse]
    exact LineWalk.exact_cut_isChain_share start target rate most
  · have hneighbors := LineWalk.exact_cut_isChain_le rate hlength hmost hcount
    rw [← hcourse] at hneighbors
    have hblocks : ∀ block ∈ (machine.onto (planner, ([] : Journal ℝ))).blocks (.obey instruction),
        block.length < most + leastMove := by
      intro block hblock
      obtain ⟨leg, hleg, hblocklength⟩ := exists_leg_of_mem_blocks hblock
      rw [hblocklength]
      exact Leg.exact_through_length_lt hnear hneighbors leg hleg
    exact perform_offersOnly downstream hblocks Journal.offersOnly_nil

/-- On the standard machine a line of ten millimeters is cut in two, and no block is longer than
five millimeters and the least move, even if the planner refuses the first one. -/
theorem obey_straight_tenAlongX :
    let machine : Machine ℝ Unit := standard ()
    let instruction : Instruction ℝ := tenAlongX ((1 : ℤ) : ℝ)
    let start := machine.program.position
    let target := (machine.program.withModes instruction).target instruction
    let outcome := (machine.onto (0, [])).obey Downstream.halting.journaled instruction
    machine.Reachable ∧ machine.gap < leastMove ∧
    (machine.program.withModes instruction).mode = .feed ∧
    (start.vectorTo target).norm = 10 ∧ machine.settings.maxLineSegment = 5 ∧
    (machine.course (.obey instruction)).length = 2 ∧
    ∀ block answer, Event.offered block answer ∈ outcome.2.journal →
      block.length < 5 + leastMove := by
  intro machine instruction start target outcome
  have hreachable : machine.Reachable := .new (exact_withKinematics_standard ())
  have hmode : (machine.program.withModes instruction).mode = .feed := by
    rw [withModes_tenAlongX machine.program rfl]
  have htarget : target = machine.dispatcher.last.set .x 10 := target_tenAlongX () rfl
  have hnorm : (start.vectorTo target).norm = 10 := by
    rw [htarget]
    exact norm_ten ()
  have hmost : machine.settings.maxLineSegment = 5 := by
    change (5.0 : ℝ) = 5
    norm_num
  have hlength : 0 < (start.vectorTo target).norm := by
    rw [hnorm]
    norm_num
  have hcount : (start.vectorTo target).norm / machine.settings.maxLineSegment ≤ 2 ^ 32 - 1 := by
    rw [hnorm, hmost]
    norm_num
  obtain ⟨rate, -, segments, hsegments, -, hleast, -, hoffers⟩ :=
    obey_straight Downstream.halting 0 hreachable (gap_standard ()) (.inr hmode) hlength hcount
  rw [hmost] at hleast hoffers
  have htwo : IsLeast {count : ℕ | 1 ≤ count ∧ (start.vectorTo target).norm / count ≤ 5} 2 := by
    rw [hnorm]
    refine ⟨⟨one_le_two, by norm_num⟩, fun count hallowed => ?_⟩
    obtain ⟨hone, hle⟩ := hallowed
    have hpos : (0 : ℝ) < count := by exact_mod_cast hone
    rw [div_le_iff₀ hpos] at hle
    have htwice : (2 : ℝ) ≤ count := by linarith
    exact_mod_cast htwice
  exact ⟨hreachable, gap_standard (), hmode, hnorm, hmost, hsegments.trans (hleast.unique htwo),
    hoffers⟩

end Machine

end Toolpath
