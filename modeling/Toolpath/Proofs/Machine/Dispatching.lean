import Toolpath.Proofs.Move.Leg
import Toolpath.Proofs.Planner.Delivery

/-!
# Dispatching is delivering legs

The dispatcher decides leg by leg while it talks to the planner. Yet the two can be told
apart: the legs follow from the waypoints, and the blocks of the legs are delivered. What was
taken decides where the dispatcher stands afterwards.
-/

namespace Toolpath

variable {α σ : Type} [Scalar α]

namespace Dispatcher

/-- The block of a waypoint is that of the leg to it. -/
theorem block_eq (dispatcher : Dispatcher α σ) (waypoint : Waypoint α) :
    dispatcher.block waypoint = (Leg.mk dispatcher.last waypoint).block dispatcher.kinematics :=
  rfl

/-- A waypoint that is too near is not offered. -/
theorem dispatch_of_near (downstream : Downstream α σ) {dispatcher : Dispatcher α σ}
    {waypoint : Waypoint α} (h : (Leg.mk dispatcher.last waypoint).length < leastMove) :
    dispatcher.dispatch downstream waypoint = (.ok false, dispatcher) := by
  have hlength : (dispatcher.block waypoint).length < leastMove := h
  rw [dispatch, if_pos hlength]

/-- A waypoint that is far enough off is handed on when the block of its leg is taken. -/
theorem dispatch_of_taken {downstream : Downstream α σ} {dispatcher : Dispatcher α σ}
    {waypoint : Waypoint α} {next : σ}
    (h : ¬ (Leg.mk dispatcher.last waypoint).length < leastMove)
    (hs : downstream.submit dispatcher.poll
      ((Leg.mk dispatcher.last waypoint).block dispatcher.kinematics) dispatcher.planner =
        (.ok (), next)) :
    dispatcher.dispatch downstream waypoint =
      (.ok true, { dispatcher with last := waypoint.point, planner := next }) := by
  have hlength : ¬ (dispatcher.block waypoint).length < leastMove := h
  rw [dispatch, if_neg hlength, block_eq, hs]

/-- A block that is not taken leaves the last waypoint where it was. -/
theorem dispatch_of_fault {downstream : Downstream α σ} {dispatcher : Dispatcher α σ}
    {waypoint : Waypoint α} {fault : Fault α} {next : σ}
    (h : ¬ (Leg.mk dispatcher.last waypoint).length < leastMove)
    (hs : downstream.submit dispatcher.poll
      ((Leg.mk dispatcher.last waypoint).block dispatcher.kinematics) dispatcher.planner =
        (.error fault, next)) :
    dispatcher.dispatch downstream waypoint =
      (.error fault, { dispatcher with planner := next }) := by
  have hlength : ¬ (dispatcher.block waypoint).length < leastMove := h
  rw [dispatch, if_neg hlength, block_eq, hs]

/-- The legs from where the dispatcher stands through waypoints. -/
def legs (dispatcher : Dispatcher α σ) (waypoints : List (Waypoint α)) : List (Leg α) :=
  Leg.through dispatcher.last waypoints

/-- The blocks of these legs. -/
def blocks (dispatcher : Dispatcher α σ) (waypoints : List (Waypoint α)) : List (Block α) :=
  (dispatcher.legs waypoints).map (Leg.block dispatcher.kinematics)

/-- The end of the last block, when a number of blocks for waypoints was taken. -/
def lastAfter (dispatcher : Dispatcher α σ) (waypoints : List (Waypoint α)) (taken : Nat) :
    PerAxis α :=
  Leg.finish dispatcher.last ((dispatcher.legs waypoints).take taken)

/-- Handing on waypoints is delivering the blocks of their legs. -/
theorem dispatchList_eq_deliver (downstream : Downstream α σ) (waypoints : List (Waypoint α))
    (tally : Tally) (dispatcher : Dispatcher α σ) :
    dispatcher.dispatchList downstream waypoints tally =
      let delivery := downstream.deliver dispatcher.poll (dispatcher.blocks waypoints)
        dispatcher.planner
      (resultUnless delivery.fault? ⟨tally.waypoints + waypoints.length,
          tally.blocks + (dispatcher.legs waypoints).length⟩,
        { dispatcher with
          last := dispatcher.lastAfter waypoints delivery.taken
          planner := delivery.planner }) := by
  induction waypoints generalizing tally dispatcher with
  | nil => rfl
  | cons waypoint rest ih =>
    by_cases h : (Leg.mk dispatcher.last waypoint).length < leastMove
    · have hlegs : dispatcher.legs (waypoint :: rest) = dispatcher.legs rest :=
        Leg.through_of_near h rest
      have hwaypoints : tally.waypoints + 1 + rest.length =
          tally.waypoints + (waypoint :: rest).length := by
        rw [List.length_cons, Nat.add_right_comm, Nat.add_assoc]
      rw [dispatchList, dispatch_of_near downstream h]
      dsimp only
      rw [ih]
      simp only [blocks, lastAfter, hlegs, Tally.count, hwaypoints, Bool.false_eq_true,
        reduceIte]
    · have hlegs : dispatcher.legs (waypoint :: rest) =
          ⟨dispatcher.last, waypoint⟩ :: Leg.through waypoint.point rest :=
        Leg.through_of_far h rest
      simp only [blocks, lastAfter, hlegs, List.map_cons]
      rcases hs : downstream.submit dispatcher.poll
        ((Leg.mk dispatcher.last waypoint).block dispatcher.kinematics) dispatcher.planner with
        ⟨⟨fault⟩ | ⟨⟨⟩⟩, next⟩
      · rw [dispatchList, dispatch_of_fault h hs, Downstream.deliver_cons_of_error hs]
        rfl
      · have hwaypoints : tally.waypoints + 1 + rest.length =
            tally.waypoints + (waypoint :: rest).length := by
          rw [List.length_cons, Nat.add_right_comm, Nat.add_assoc]
        have hblocks : tally.blocks + 1 + (Leg.through waypoint.point rest).length =
            tally.blocks + ((Leg.mk dispatcher.last waypoint) ::
              Leg.through waypoint.point rest).length := by
          rw [List.length_cons, Nat.add_right_comm, Nat.add_assoc]
        rw [dispatchList, dispatch_of_taken h hs, Downstream.deliver_cons_of_ok hs]
        dsimp only
        rw [ih]
        simp only [blocks, lastAfter, legs, Tally.count, hwaypoints, hblocks, reduceIte,
          List.take_succ_cons, Leg.finish, List.foldl_cons, resultUnless]

end Dispatcher

end Toolpath
