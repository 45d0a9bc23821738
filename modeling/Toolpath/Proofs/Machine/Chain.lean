import Toolpath.Proofs.Configuration.Usable
import Toolpath.Proofs.Machine.Run
import Toolpath.Proofs.Move.Mark

/-!
# Blocks form one chain

Whatever a planner says, the blocks that it took lead one from the other: each starts where the
one before it ended, or where a position was declared since. The marks of a request follow from
its legs and from how many blocks were taken; the marks of a run are those of its requests.
-/

namespace Toolpath

variable {α σ τ : Type} [Scalar α]

namespace Machine

/-- Marks that a request leaves: the declared position, or the legs whose blocks were taken. -/
def marks (downstream : Downstream α σ) (machine : Machine α σ) (request : Request α) :
    List (Mark α) :=
  match request.declared? with
  | some position => [.declared position]
  | none =>
    let delivery := downstream.deliver machine.dispatcher.poll (machine.blocks request)
      machine.dispatcher.planner
    ((machine.legs request).take delivery.taken).map (Mark.ofLeg machine.dispatcher.kinematics)

/-- Marks that some requests leave, one after the other. -/
def trail (downstream : Downstream α σ) (machine : Machine α σ) :
    List (Request α) → List (Mark α)
  | [] => []
  | request :: rest =>
    machine.marks downstream request ++ (machine.perform downstream request).2.trail downstream rest

/-- Marks that a request may leave: the position that it declares, or waypoints of its course in
their order. -/
def MayLeave (machine : Machine α σ) (request : Request α) (marks : List (Mark α)) : Prop :=
  match request.declared? with
  | some position => marks = [.declared position]
  | none => (∀ mark ∈ marks, mark.block?.isSome) ∧
      (marks.filterMap Mark.waypoint?).Sublist (machine.course request)

variable (downstream : Downstream α σ)

/-- The marks of a request lead to where the machine was last sent. -/
theorem perform_last (machine : Machine α σ) (request : Request α) :
    (machine.perform downstream request).2.dispatcher.last =
      Mark.track machine.dispatcher.last (machine.marks downstream request) := by
  rw [perform_eq]
  simp only [after, lastAfter, marks]
  cases request.declared? with
  | some position => rfl
  | none => exact (Mark.track_legs _ _).symm

/-- A request does not change the kinematics. -/
theorem perform_kinematics (machine : Machine α σ) (request : Request α) :
    (machine.perform downstream request).2.dispatcher.kinematics =
      machine.dispatcher.kinematics := by
  rw [perform_eq]
  rfl

/-- The marks of a request form a chain. -/
theorem marks_chained (machine : Machine α σ) (request : Request α) :
    Mark.Chained machine.dispatcher.kinematics machine.dispatcher.last
      (machine.marks downstream request) := by
  unfold marks
  cases request.declared? with
  | some position => exact Mark.chained_declared _ position
  | none =>
    have hlinked : Leg.Linked machine.dispatcher.last (machine.legs request) :=
      Leg.through_linked _ _
    have hfar : ∀ leg ∈ machine.legs request, ¬ leg.length < leastMove := Leg.through_far _ _
    exact Mark.chained_legs (hlinked.take _) (fun leg hleg => hfar leg (List.mem_of_mem_take hleg))

/-- A request leaves no marks but those that it may leave. -/
theorem mayLeave_marks (machine : Machine α σ) (request : Request α) :
    machine.MayLeave request (machine.marks downstream request) := by
  unfold MayLeave marks
  cases request.declared? with
  | some position => rfl
  | none =>
    refine ⟨fun mark hmark => ?_, ?_⟩
    · obtain ⟨leg, -, rfl⟩ := List.mem_map.mp hmark
      rfl
    · dsimp only
      rw [Mark.waypoints_legs, List.map_take]
      exact (List.take_sublist _ _).trans (Leg.through_sublist _ _)

/-- The blocks of the marks of a request are those that were taken. -/
theorem marks_blocks (machine : Machine α σ) (request : Request α) :
    (machine.marks downstream request).filterMap Mark.block? =
      (machine.blocks request).take
        (downstream.deliver machine.dispatcher.poll (machine.blocks request)
          machine.dispatcher.planner).taken := by
  unfold marks
  cases h : request.declared? with
  | some position =>
    have hnone : machine.blocks request = [] := by
      by_contra hblocks
      rw [declared?_of_blocks hblocks] at h
      cases h
    rw [hnone]
    rfl
  | none =>
    dsimp only
    rw [Mark.blocks_legs, List.map_take]
    rfl

/-- A journal notes the blocks of the marks that a request leaves. -/
theorem perform_accepted (machine : Machine α (σ × Journal α)) (request : Request α) :
    (machine.perform downstream.journaled request).2.journal.accepted =
      machine.journal.accepted ++
        (machine.marks downstream.journaled request).filterMap Mark.block? := by
  rw [perform_eq, marks_blocks]
  exact Downstream.journaled_deliver_accepted _ _ _ _ _

/-- Marks of requests in two parts come in two parts. -/
theorem trail_append (machine : Machine α σ) (first second : List (Request α)) :
    machine.trail downstream (first ++ second) =
      machine.trail downstream first ++
        (machine.performAll downstream first).2.trail downstream second := by
  induction first generalizing machine with
  | nil => rfl
  | cons request rest ih =>
    have hrest := ih (machine.perform downstream request).2
    rw [List.cons_append, trail, trail, hrest, List.append_assoc]
    rfl

/-- The marks of a run lead to where the machine was last sent. -/
theorem performAll_last (machine : Machine α σ) (requests : List (Request α)) :
    (machine.performAll downstream requests).2.dispatcher.last =
      Mark.track machine.dispatcher.last (machine.trail downstream requests) := by
  induction requests generalizing machine with
  | nil => rfl
  | cons request rest ih =>
    have hrest := ih (machine.perform downstream request).2
    rw [trail, Mark.track_append, ← perform_last, ← hrest]
    rfl

/-- The marks of a run form a chain. -/
theorem trail_chained (machine : Machine α σ) (requests : List (Request α)) :
    Mark.Chained machine.dispatcher.kinematics machine.dispatcher.last
      (machine.trail downstream requests) := by
  induction requests generalizing machine with
  | nil => exact Mark.chained_nil _
  | cons request rest ih =>
    have hrest := ih (machine.perform downstream request).2
    rw [perform_kinematics, perform_last] at hrest
    exact (machine.marks_chained downstream request).append hrest

/-- A journal notes the blocks of the marks of a run. -/
theorem performAll_accepted (machine : Machine α (σ × Journal α)) (requests : List (Request α)) :
    (machine.performAll downstream.journaled requests).2.journal.accepted =
      machine.journal.accepted ++
        (machine.trail downstream.journaled requests).filterMap Mark.block? := by
  induction requests generalizing machine with
  | nil => exact (List.append_nil _).symm
  | cons request rest ih =>
    have hrest := ih (machine.perform downstream.journaled request).2
    rw [perform_accepted, List.append_assoc] at hrest
    rw [trail, List.filterMap_append]
    exact hrest

/-- The blocks of a whole run form one chain without gaps. On a new machine, whatever is asked
of it and whatever the planner says, where the tool was last sent is where the marks so far lead
from the origin. The blocks that the planner took are those of the marks, in order, and each of
them leads from where the marks before it end to its own waypoint. A request leaves no marks but
the position that it declares or waypoints of its own course. Where numbers are exact, the
displacements of the blocks since a declared position add up to the way since then. -/
theorem performAll_chained (config : Configuration α) (kinematics : Kinematics α) (planner : σ)
    {machine : Machine α σ} (hnew : withKinematics config kinematics planner = .ok machine) :
    let origin : PerAxis α := PerAxis.uniform 0.0
    let run (requests : List (Request α)) : Machine α (σ × Journal α) :=
      (machine.runOver downstream planner requests).2
    let trail (requests : List (Request α)) : List (Mark α) :=
      (machine.onto (planner, [])).trail downstream.journaled requests
    trail [] = [] ∧
    (∀ first request, ∃ marks, trail (first ++ [request]) = trail first ++ marks ∧
      (run first).MayLeave request marks) ∧
    ∀ requests,
      (run requests).dispatcher.last = Mark.track origin (trail requests) ∧
      (run requests).journal.accepted = (trail requests).filterMap Mark.block? ∧
      Mark.Chained kinematics origin (trail requests) ∧
      ((∀ x y : α, x + (y - x) = y) → ∀ before since, trail requests = before ++ since →
        (∀ mark ∈ since, mark.block?.isSome) → ∀ axis,
          (since.filterMap Mark.block?).foldl (fun sum block => sum + block.displacement.get axis)
            ((Mark.track origin before).get axis) = (run requests).dispatcher.last.get axis) := by
  intro origin run trail
  have hdispatcher := dispatcher_of_withKinematics hnew
  refine ⟨rfl, fun first request => ?_, fun requests => ?_⟩
  · refine ⟨(run first).marks downstream.journaled request, ?_, mayLeave_marks _ _ _⟩
    have happend := trail_append downstream.journaled (machine.onto (planner, [])) first [request]
    rw [Machine.trail, Machine.trail, List.append_nil] at happend
    exact happend
  · have hlast := performAll_last downstream.journaled (machine.onto (planner, [])) requests
    have hchained := trail_chained downstream.journaled (machine.onto (planner, [])) requests
    change (run requests).dispatcher.last = Mark.track machine.dispatcher.last (trail requests)
      at hlast
    change Mark.Chained machine.dispatcher.kinematics machine.dispatcher.last (trail requests)
      at hchained
    rw [hdispatcher] at hlast hchained
    refine ⟨hlast, ?_, hchained, fun hexact before since hsince htaken axis => ?_⟩
    · exact performAll_accepted downstream (machine.onto (planner, [])) requests
    · rw [hlast, hsince]
      rw [hsince] at hchained
      exact hchained.sum_displacements hexact htaken axis

/-- Over the real numbers, whatever is asked of the standard machine over a recorder, the blocks
that were taken since the last declared position add up. -/
theorem performAll_chained_standard :
    withKinematics Configuration.standard DriveConfig.standard.kinematics [] =
      .ok (standard [] : Machine ℝ (List (Block ℝ))) ∧
    ∀ requests : List (Request ℝ), ∀ before since,
      ((standard [] : Machine ℝ (List (Block ℝ))).onto ([], [])).trail
        Downstream.recorder.journaled requests = before ++ since →
      (∀ mark ∈ since, mark.block?.isSome) → ∀ axis,
        (since.filterMap Mark.block?).foldl (fun sum block => sum + block.displacement.get axis)
          ((Mark.track (standard [] : Machine ℝ (List (Block ℝ))).dispatcher.last
            before).get axis) =
        ((standard [] : Machine ℝ (List (Block ℝ))).runOver .recorder []
          requests).2.dispatcher.last.get axis := by
  have hnew := exact_withKinematics_standard ([] : List (Block ℝ))
  have hexact : ∀ x y : ℝ, x + (y - x) = y := add_sub_cancel
  refine ⟨hnew, fun requests => ?_⟩
  obtain ⟨-, -, hrun⟩ := performAll_chained .recorder _ _ _ hnew
  exact (hrun requests).2.2.2 hexact

end Machine

end Toolpath
