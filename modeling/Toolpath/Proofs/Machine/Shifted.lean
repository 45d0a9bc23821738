import Mathlib.Analysis.SpecialFunctions.Complex.Arg
import Toolpath.Proofs.Machine.Chain
import Toolpath.Proofs.Machine.Gap
import Toolpath.Proofs.Planner.Agreement
import Toolpath.Proofs.Program.Relative

/-!
# Relative programs can start anywhere

A program that stays in relative coordinates does the same wherever it starts. Two machines whose
positions differ by a vector, over planners that answer alike, offer by offer, reply alike and offer
blocks of the same motion, and their positions differ by the vector all along. Nothing but the motor
positions of the blocks depends on the place.
-/

namespace Toolpath

/-- Real numbers with any functions for square roots, hypotenuses, angles, cosines and sines. -/
@[reducible] noncomputable def exactWith (sqrt : ℝ → ℝ) (hypot atan2 : ℝ → ℝ → ℝ)
    (cos sin : ℝ → ℝ) : Scalar ℝ :=
  { (inferInstance : Scalar ℝ) with sqrt, hypot, atan2, cos, sin }

/-- Whatever these functions are, sums and differences are exact. -/
theorem exactWith_sums (sqrt : ℝ → ℝ) (hypot atan2 : ℝ → ℝ → ℝ) (cos sin : ℝ → ℝ) :
    @ExactSums ℝ (exactWith sqrt hypot atan2 cos sin) :=
  @ExactSums.mk ℝ (exactWith sqrt hypot atan2 cos sin) (add_right_comm (G := ℝ))
    (fun x y z => add_sub_add_right_eq_sub (G := ℝ) y x z)

/-- Over the real numbers sums and differences are exact. -/
theorem exact_sums : ExactSums ℝ :=
  exactWith_sums Scalar.sqrt Scalar.hypot Scalar.atan2 Scalar.cos Scalar.sin

variable {α σ τ : Type}

/-- What a block says but for the motor positions: its rate, its length and its displacement. -/
def Block.motion (block : Block α) : α × α × PerAxis α :=
  (block.rate, block.length, block.displacement)

variable [Scalar α]

/-- The block of a shifted leg has the same motion, whatever the kinematics. -/
theorem Leg.motion_shift (hexact : ExactSums α) (vector : PerAxis α)
    (kinematics other : Kinematics α) (leg : Leg α) :
    ((leg.shift vector).block other).motion = (leg.block kinematics).motion := by
  simp only [block, Block.motion, length_shift hexact, displacement_shift hexact]
  rfl

namespace Machine

/-- Two machines are in relative coordinates and have the same settings, and in one of them the
commanded position and where the tool was last sent are shifted by a vector. -/
structure Shifted (vector : PerAxis α) (here : Machine α σ) (there : Machine α τ) : Prop where
  /-- Coordinates count from the position before the move. -/
  relative : here.program.distance = .relative
  /-- The programs agree in all but the position, and that is shifted. -/
  program : there.program = here.program.shift vector
  /-- The settings are the same. -/
  settings : there.settings = here.settings
  /-- Where the tool was last sent is shifted. -/
  last : there.dispatcher.last = here.dispatcher.last.shift vector

section Step

variable {vector : PerAxis α} {here : Machine α σ} {there : Machine α τ}
  {instruction : Instruction α} (hexact : ExactSums α)
include hexact

/-- A relative instruction leads through shifted waypoints. -/
theorem Shifted.course (h : here.Shifted vector there) (hstays : instruction.StaysRelative) :
    there.course (.obey instruction) =
      (here.course (.obey instruction)).map (Waypoint.shift vector) := by
  have hdistance := ProgramState.withModes_distance h.relative hstays
  simp only [Machine.course]
  rw [h.program, h.settings, ProgramState.withModes_shift, ProgramState.withRate_shift,
    ProgramState.target_shift vector hexact hdistance, ← ProgramState.course_shift vector hexact]
  rfl

/-- Its legs are shifted. -/
theorem Shifted.legs (h : here.Shifted vector there) (hstays : instruction.StaysRelative) :
    there.legs (.obey instruction) = (here.legs (.obey instruction)).map (Leg.shift vector) := by
  rw [Machine.legs, Dispatcher.legs, h.last, h.course hexact hstays, Leg.through_shift hexact]
  rfl

/-- Its blocks have the same motion. -/
theorem Shifted.blocks (h : here.Shifted vector there) (hstays : instruction.StaysRelative) :
    (here.blocks (.obey instruction)).map Block.motion =
      (there.blocks (.obey instruction)).map Block.motion := by
  have hlegs := h.legs hexact hstays
  have hhere : here.blocks (.obey instruction) =
      (here.legs (.obey instruction)).map (Leg.block here.dispatcher.kinematics) := rfl
  have hthere : there.blocks (.obey instruction) =
      (there.legs (.obey instruction)).map (Leg.block there.dispatcher.kinematics) := rfl
  rw [hhere, hthere, hlegs, List.map_map, List.map_map, List.map_map]
  refine List.map_congr_left fun leg _ => ?_
  exact (Leg.motion_shift hexact vector _ _ leg).symm

/-- It has the same tally. -/
theorem Shifted.tally (h : here.Shifted vector there) (hstays : instruction.StaysRelative) :
    there.tally (.obey instruction) = here.tally (.obey instruction) := by
  rw [Machine.tally, Machine.tally, h.course hexact hstays, h.legs hexact hstays, List.length_map,
    List.length_map]

/-- When as many of its blocks are taken, the machines are still shifted. -/
theorem Shifted.after (h : here.Shifted vector there) (hstays : instruction.StaysRelative)
    (taken : Nat) {σ' τ' : Type} (planner : σ') (planner' : τ') :
    (here.after taken planner (.obey instruction)).Shifted vector
      (there.after taken planner' (.obey instruction)) := by
  have hdistance := ProgramState.withModes_distance h.relative hstays
  have hrate := (here.program.withModes instruction).withRate_eq instruction
  refine ⟨?_, ?_, h.settings, ?_⟩
  · obtain ⟨feedRate, seekRate, hrate⟩ := hrate
    change (here.program.obeyed instruction).distance = .relative
    simp only [ProgramState.obeyed, hrate]
    exact hdistance
  · change there.program.obeyed instruction = (here.program.obeyed instruction).shift vector
    rw [h.program, ProgramState.obeyed_shift vector hexact hdistance]
  · change Leg.finish there.dispatcher.last ((there.legs (.obey instruction)).take taken) =
      (Leg.finish here.dispatcher.last ((here.legs (.obey instruction)).take taken)).shift vector
    rw [h.last, h.legs hexact hstays, ← List.map_take, Leg.finish_shift]

end Step

section Invariant

variable {downstream : Downstream α σ} {Invariant : σ → Prop}

/-- What every offer and every wait keeps, a request keeps. -/
theorem perform_invariant
    (hoffer : ∀ state block, Invariant state → Invariant (downstream.offer state block).2)
    (hwait : ∀ state poll, Invariant state → Invariant (downstream.wait state poll))
    {machine : Machine α σ} (h : Invariant machine.dispatcher.planner) (request : Request α) :
    Invariant (machine.perform downstream request).2.dispatcher.planner := by
  rw [perform_eq]
  exact Downstream.deliver_invariant hoffer hwait _ _ h

/-- What every offer and every wait keeps, requests keep. -/
theorem performAll_invariant
    (hoffer : ∀ state block, Invariant state → Invariant (downstream.offer state block).2)
    (hwait : ∀ state poll, Invariant state → Invariant (downstream.wait state poll))
    {machine : Machine α σ} (h : Invariant machine.dispatcher.planner)
    (requests : List (Request α)) :
    Invariant (machine.performAll downstream requests).2.dispatcher.planner := by
  induction requests generalizing machine with
  | nil => exact h
  | cons request rest ih => exact ih (perform_invariant hoffer hwait h request)

end Invariant

/-- Requests only add to a journal. -/
theorem performAll_journal_suffix (downstream : Downstream α σ)
    (machine : Machine α (σ × Journal α)) (requests : List (Request α)) :
    machine.journal <:+ (machine.performAll downstream.journaled requests).2.journal :=
  performAll_invariant (Downstream.journaled_offer_suffix downstream machine.journal)
    (Downstream.journaled_wait_suffix downstream machine.journal) (List.suffix_refl _) requests

/-- Runs over the same script note the same answers. -/
theorem runOver_script_sameAnswers (answer : Nat → Answer) (patience : Nat) (first : Machine α σ)
    (second : Machine α τ) (requests others : List (Request α)) :
    (first.runOver (.script answer patience) 0 requests).2.journal.SameAnswers
      (second.runOver (.script answer patience) 0 others).2.journal := by
  have hfollows {σ' : Type} (machine : Machine α σ') (requests : List (Request α)) :
      Downstream.Follows answer
        (machine.runOver (.script answer patience) 0 requests).2.dispatcher.planner := by
    have hbegin : Downstream.Follows answer
        (machine.onto (0, ([] : Journal α))).dispatcher.planner := rfl
    exact performAll_invariant (Downstream.script_offer_follows answer patience)
      (Downstream.script_wait_follows answer patience) hbegin requests
  exact (hfollows first requests).sameAnswers (hfollows second others)

/-- Waypoints of the blocks that are taken during requests, the first one first. -/
def reached (downstream : Downstream α σ) (machine : Machine α σ) (requests : List (Request α)) :
    List (Waypoint α) :=
  (machine.trail downstream requests).filterMap Mark.waypoint?

variable {here : Downstream α σ} {there : Downstream α τ} {vector : PerAxis α}

/-- A relative instruction over planners that answer alike is replied to alike, offers blocks of the
same motion and takes the tool through shifted waypoints, and leaves the machines shifted. -/
theorem perform_shifted (hexact : ExactSums α) (hpatience : here.patience = there.patience)
    {first : Machine α (σ × Journal α)} {second : Machine α (τ × Journal α)}
    {instruction : Instruction α} (h : first.Shifted vector second)
    (hjournal : first.journal.exchanges Block.motion = second.journal.exchanges Block.motion)
    (hstays : instruction.StaysRelative)
    (hsame : Journal.SameAnswers
      (first.perform here.journaled (.obey instruction)).2.journal
      (second.perform there.journaled (.obey instruction)).2.journal) :
    let left := first.perform here.journaled (.obey instruction)
    let right := second.perform there.journaled (.obey instruction)
    right.1 = left.1 ∧ left.2.Shifted vector right.2 ∧
      left.2.journal.exchanges Block.motion = right.2.journal.exchanges Block.motion ∧
      (second.marks there.journaled (.obey instruction)).filterMap Mark.waypoint? =
        ((first.marks here.journaled (.obey instruction)).filterMap Mark.waypoint?).map
          (Waypoint.shift vector) := by
  rw [perform_eq, perform_eq] at hsame ⊢
  obtain ⟨hfault, htaken, hexchanges⟩ := Downstream.journaled_deliver_congr hpatience
    first.dispatcher.poll second.dispatcher.poll (h.blocks hexact hstays) hjournal hsame
  refine ⟨?_, ?_, hexchanges, ?_⟩
  · simp only [reply, hfault, h.tally hexact hstays]
  · dsimp only
    rw [htaken]
    exact h.after hexact hstays _ _ _
  · have hmarks {σ' : Type} (downstream : Downstream α σ') (machine : Machine α σ') :
        (machine.marks downstream (.obey instruction)).filterMap Mark.waypoint? =
          (((machine.legs (.obey instruction)).take
            (downstream.deliver machine.dispatcher.poll (machine.blocks (.obey instruction))
              machine.dispatcher.planner).taken).map Leg.waypoint) := Mark.waypoints_legs _
    rw [hmarks, hmarks, ← htaken, h.legs hexact hstays, ← List.map_take, List.map_map,
      List.map_map]
    rfl

/-- A relative program over planners that answer alike is replied to alike, offers blocks of the
same motion and takes the tool through shifted waypoints, and leaves the machines shifted. -/
theorem performAll_shifted (hexact : ExactSums α) (hpatience : here.patience = there.patience)
    {first : Machine α (σ × Journal α)} {second : Machine α (τ × Journal α)}
    {program : List (Instruction α)} (h : first.Shifted vector second)
    (hjournal : first.journal.exchanges Block.motion = second.journal.exchanges Block.motion)
    (hstays : ∀ instruction ∈ program, instruction.StaysRelative)
    (hsame : Journal.SameAnswers
      (first.performAll here.journaled (program.map .obey)).2.journal
      (second.performAll there.journaled (program.map .obey)).2.journal) :
    let left := first.performAll here.journaled (program.map .obey)
    let right := second.performAll there.journaled (program.map .obey)
    right.1 = left.1 ∧ left.2.Shifted vector right.2 ∧
      left.2.journal.exchanges Block.motion = right.2.journal.exchanges Block.motion ∧
      second.reached there.journaled (program.map .obey) =
        (first.reached here.journaled (program.map .obey)).map (Waypoint.shift vector) := by
  induction program generalizing first second with
  | nil => exact ⟨rfl, h, hjournal, rfl⟩
  | cons instruction rest ih =>
    obtain ⟨hfirst, hrest⟩ := List.forall_mem_cons.mp hstays
    have hstep := hsame.before (performAll_journal_suffix here _ (rest.map .obey))
      (performAll_journal_suffix there _ (rest.map .obey))
    obtain ⟨hreply, hshifted, hnoted, hmarks⟩ :=
      perform_shifted hexact hpatience h hjournal hfirst hstep
    obtain ⟨hreplies, hend, hexchanges, hreached⟩ := ih hshifted hnoted hrest hsame
    refine ⟨?_, hend, hexchanges, ?_⟩
    · exact congrArg₂ List.cons hreply hreplies
    · rw [reached, reached] at hreached ⊢
      rw [List.map_cons, trail, trail, List.filterMap_append, List.filterMap_append, hmarks,
        hreached, List.map_append]

/-- Relative programs can start anywhere. Where sums and differences are exact, whatever the other
operations are, take two machines in relative coordinates that agree in their settings, modes and
rates, one with the commanded position and where the tool was last sent shifted by a vector, and any
kinematics. Let them carry out a program that stays in relative coordinates, over any planners that
are waited for as long and give the same answers, offer by offer. After any number of instructions
the replies are the same, both positions are still shifted by the vector, all blocks that were
offered have the same rates, lengths and displacements, so do the ones that were taken, and their
waypoints are shifted; and so are all waypoints that the next instruction leads through. -/
theorem runOver_shifted (hexact : ExactSums α) {here : Downstream α σ} {there : Downstream α τ}
    (hpatience : here.patience = there.patience) {vector : PerAxis α} {σ' τ' : Type}
    {first : Machine α σ'} {second : Machine α τ'} (h : first.Shifted vector second) (planner : σ)
    (planner' : τ) {program : List (Instruction α)}
    (hstays : ∀ instruction ∈ program, instruction.StaysRelative)
    (hsame : Journal.SameAnswers (first.runOver here planner (program.map .obey)).2.journal
      (second.runOver there planner' (program.map .obey)).2.journal) (count : Nat) :
    let requests : List (Request α) := (program.take count).map .obey
    let left := first.runOver here planner requests
    let right := second.runOver there planner' requests
    right.1 = left.1 ∧
    right.2.program = left.2.program.shift vector ∧
    right.2.dispatcher.last = left.2.dispatcher.last.shift vector ∧
    left.2.journal.exchanges Block.motion = right.2.journal.exchanges Block.motion ∧
    left.2.journal.accepted.map Block.motion = right.2.journal.accepted.map Block.motion ∧
    (second.onto (planner', [])).reached there.journaled requests =
      ((first.onto (planner, [])).reached here.journaled requests).map (Waypoint.shift vector) ∧
    ∀ instruction rest, program.drop count = instruction :: rest →
      right.2.course (.obey instruction) =
        (left.2.course (.obey instruction)).map (Waypoint.shift vector) := by
  intro requests left right
  have hsplit : program.map Request.obey = requests ++ (program.drop count).map .obey := by
    rw [← List.map_append, List.take_append_drop]
  have hsofar : Journal.SameAnswers left.2.journal right.2.journal := by
    refine hsame.before ?_ ?_
    · rw [hsplit, runOver, performAll_append]
      exact performAll_journal_suffix here left.2 _
    · rw [hsplit, runOver, performAll_append]
      exact performAll_journal_suffix there right.2 _
  have hstart : (first.onto (planner, ([] : Journal α))).Shifted vector
      (second.onto (planner', ([] : Journal α))) := ⟨h.relative, h.program, h.settings, h.last⟩
  obtain ⟨hreplies, hshifted, hexchanges, hreached⟩ :=
    performAll_shifted hexact hpatience hstart rfl
      (fun instruction hmem => hstays instruction (List.mem_of_mem_take hmem)) hsofar
  refine ⟨hreplies, hshifted.program, hshifted.last, hexchanges,
    Journal.accepted_congr hexchanges, hreached, fun instruction rest hnext => ?_⟩
  have hmem : instruction ∈ program.drop count := by
    rw [hnext]
    exact List.mem_cons_self
  exact hshifted.course hexact (hstays instruction (List.mem_of_mem_drop hmem))

/-- A helix that rises by two millimeters to a point ten millimeters along the first axis. -/
noncomputable def helixAlongX : Instruction ℝ :=
  .ofWords ([('G', 3), ('X', 10), ('Z', 2), ('I', 5)].map fun word : Char × ℤ =>
    ⟨word.1, (word.2 : ℝ)⟩)

/-- An instruction whose only modal number selects a way of moving stays in relative coordinates. -/
theorem staysRelative_of_move {instruction : Instruction ℝ} {number : ℤ} {mode : MoveMode}
    (hnumbers : instruction.numbers 'G' = [(number : ℝ)])
    (hmode : ModalSetting.ofInt? number = some (.move mode)) : instruction.StaysRelative := by
  have hsetting : ModalSetting.ofNumber? (number : ℝ) = some (.move mode) :=
    (exact_ofNumber?_intCast number).trans hmode
  have hsettings : instruction.settings = [.move mode] := by
    rw [Instruction.settings, hnumbers, List.filterMap_cons_some hsetting, List.filterMap_nil]
  intro selected hselected
  rw [hsettings] at hselected
  cases hselected

/-- A line and a helix do the same three millimeters to one side, four to another and five further
up, also for other motors and when the planner is full at the second offer. -/
theorem runOver_shifted_helix :
    let vector : PerAxis ℝ := ⟨3, -4, 5⟩
    let plain : Machine ℝ Unit := standard ()
    let first : Machine ℝ Unit :=
      { plain with program := { plain.program with distance := .relative } }
    let second : Machine ℝ Unit := { first with
      program := first.program.shift vector
      dispatcher := { first.dispatcher with
        kinematics := (CartesianDrive.mk (PerAxis.uniform 1)).kinematics
        last := first.dispatcher.last.shift vector } }
    let planner : Downstream ℝ Nat :=
      .script (fun asked => if asked = 1 then .full else .accepted) 2
    let requests : List (Request ℝ) := [.obey (tenAlongX ((1 : ℤ) : ℝ)), .obey helixAlongX]
    let left := first.runOver planner 0 requests
    let right := second.runOver planner 0 requests
    first.Shifted vector second ∧
    right.1 = left.1 ∧
    right.2.program.position = left.2.program.position.shift vector ∧
    right.2.dispatcher.last = left.2.dispatcher.last.shift vector ∧
    left.2.journal.accepted.map Block.motion = right.2.journal.accepted.map Block.motion := by
  intro vector plain first second planner requests left right
  have hshifted : first.Shifted vector second := ⟨rfl, rfl, rfl, rfl⟩
  let program : List (Instruction ℝ) := [tenAlongX ((1 : ℤ) : ℝ), helixAlongX]
  have hstays : ∀ instruction ∈ program, instruction.StaysRelative := by
    have hfeed : ModalSetting.ofInt? 1 = some (.move .feed) := rfl
    have harc : ModalSetting.ofInt? 3 = some (.move (.arc .counterClockwise)) := rfl
    intro instruction hmem
    rcases List.mem_pair.mp hmem with rfl | rfl
    · exact staysRelative_of_move rfl hfeed
    · exact staysRelative_of_move rfl harc
  have hsame := runOver_script_sameAnswers (fun asked => if asked = 1 then .full else .accepted) 2
    first second (program.map .obey) (program.map .obey)
  obtain ⟨hreplies, hprogram, hlast, -, haccepted, -⟩ :=
    runOver_shifted exact_sums rfl hshifted 0 0 hstays hsame 2
  exact ⟨hshifted, hreplies, congrArg ProgramState.position hprogram, hlast, haccepted⟩

end Machine

end Toolpath
