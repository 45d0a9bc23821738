import Mathlib.Data.List.Induction
import Toolpath.Proofs.Move.Leg

/-!
# Thinning of waypoints

Waypoints are scanned in order with a reference point. One that is nearer to the reference than the
least move is skipped; any other is taken and becomes the reference itself. A waypoint that is
skipped does not move the reference, so that short steps add up until one of them is taken. The
legs through waypoints end at those that are taken.
-/

namespace Toolpath

variable {α : Type}

/-- State of a scan of waypoints. -/
structure Thinning (α : Type) where
  /-- Point from which the next waypoint is measured. -/
  reference : PerAxis α
  /-- Waypoints that were taken, the first one first. -/
  taken : List (Waypoint α)
  /-- Waypoints that were skipped, the first one first. -/
  skipped : List (Waypoint α)

namespace Thinning

variable [Scalar α]

/-- Skip a waypoint that is too near to the reference, and take any other. A distance that cannot be
compared is not too near. -/
def step (thinning : Thinning α) (waypoint : Waypoint α) : Thinning α :=
  if (thinning.reference.vectorTo waypoint.point).norm < leastMove then
    { thinning with skipped := thinning.skipped ++ [waypoint] }
  else
    { thinning with
      reference := waypoint.point
      taken := thinning.taken ++ [waypoint] }

/-- Scan waypoints from a reference point. -/
def scan (reference : PerAxis α) (waypoints : List (Waypoint α)) : Thinning α :=
  waypoints.foldl step ⟨reference, [], []⟩

/-- A waypoint that is too near is skipped. -/
theorem step_of_near {thinning : Thinning α} {waypoint : Waypoint α}
    (h : (thinning.reference.vectorTo waypoint.point).norm < leastMove) :
    thinning.step waypoint = { thinning with skipped := thinning.skipped ++ [waypoint] } := by
  rw [step, if_pos h]

/-- A waypoint that is far enough off is taken. -/
theorem step_of_far {thinning : Thinning α} {waypoint : Waypoint α}
    (h : ¬ (thinning.reference.vectorTo waypoint.point).norm < leastMove) :
    thinning.step waypoint =
      ⟨waypoint.point, thinning.taken ++ [waypoint], thinning.skipped⟩ := by
  rw [step, if_neg h]

/-- The last waypoint is scanned after the others. -/
theorem scan_concat (reference : PerAxis α) (waypoints : List (Waypoint α))
    (waypoint : Waypoint α) :
    scan reference (waypoints ++ [waypoint]) = (scan reference waypoints).step waypoint :=
  List.foldl_append

/-- A waypoint becomes the reference, or the reference is near to it. -/
theorem step_near (thinning : Thinning α) (waypoint : Waypoint α) :
    (thinning.step waypoint).reference = waypoint.point ∨
      ((thinning.step waypoint).reference.vectorTo waypoint.point).norm < leastMove := by
  by_cases h : (thinning.reference.vectorTo waypoint.point).norm < leastMove
  · rw [step_of_near h]
    exact .inr h
  · rw [step_of_far h]
    exact .inl rfl

/-- The scan leaves the reference at the last waypoint or near to it. -/
theorem scan_near {waypoints : List (Waypoint α)} {last : Waypoint α}
    (h : waypoints.getLast? = some last) (reference : PerAxis α) :
    (scan reference waypoints).reference = last.point ∨
      ((scan reference waypoints).reference.vectorTo last.point).norm < leastMove := by
  obtain ⟨before, rfl⟩ := List.getLast?_eq_some_iff.mp h
  rw [scan_concat]
  exact step_near _ last

/-- A waypoint is either taken or skipped. -/
theorem step_perm (thinning : Thinning α) (waypoint : Waypoint α) :
    ((thinning.step waypoint).taken ++ (thinning.step waypoint).skipped).Perm
      (thinning.taken ++ thinning.skipped ++ [waypoint]) := by
  by_cases h : (thinning.reference.vectorTo waypoint.point).norm < leastMove
  · rw [step_of_near h, ← List.append_assoc]
  · rw [step_of_far h, List.append_assoc, List.append_assoc]
    exact List.perm_append_comm.append_left thinning.taken

/-- Every waypoint is either taken or skipped. -/
theorem scan_perm (reference : PerAxis α) (waypoints : List (Waypoint α)) :
    ((scan reference waypoints).taken ++ (scan reference waypoints).skipped).Perm waypoints := by
  induction waypoints using List.reverseRecOn with
  | nil => exact .nil
  | append_singleton before waypoint ih =>
    rw [scan_concat]
    exact (step_perm _ waypoint).trans (ih.append_right [waypoint])

/-- What the scan goes on to take are the ends of the legs from its reference, and the last of them
becomes its reference. -/
theorem foldl_step (thinning : Thinning α) (waypoints : List (Waypoint α)) :
    (waypoints.foldl step thinning).taken =
        thinning.taken ++ (Leg.through thinning.reference waypoints).map Leg.waypoint ∧
      (waypoints.foldl step thinning).reference =
        Leg.finish thinning.reference (Leg.through thinning.reference waypoints) := by
  induction waypoints generalizing thinning with
  | nil => exact ⟨(List.append_nil _).symm, rfl⟩
  | cons waypoint rest ih =>
    obtain ⟨htaken, hreference⟩ := ih (thinning.step waypoint)
    rw [List.foldl_cons, htaken, hreference]
    by_cases h : (thinning.reference.vectorTo waypoint.point).norm < leastMove
    · rw [step_of_near h, Leg.through_of_near h]
      exact ⟨rfl, rfl⟩
    · rw [step_of_far h, Leg.through_of_far h, List.map_cons, List.append_assoc]
      exact ⟨rfl, rfl⟩

/-- The scan takes the ends of the legs. -/
theorem scan_taken (reference : PerAxis α) (waypoints : List (Waypoint α)) :
    (scan reference waypoints).taken = (Leg.through reference waypoints).map Leg.waypoint :=
  (foldl_step ⟨reference, [], []⟩ waypoints).1

/-- The waypoints that are taken keep their order. -/
theorem scan_sublist (reference : PerAxis α) (waypoints : List (Waypoint α)) :
    (scan reference waypoints).taken.Sublist waypoints := by
  rw [scan_taken]
  exact Leg.through_sublist _ _

/-- The scan ends where the legs lead. -/
theorem scan_reference (reference : PerAxis α) (waypoints : List (Waypoint α)) :
    (scan reference waypoints).reference =
      Leg.finish reference (Leg.through reference waypoints) :=
  (foldl_step ⟨reference, [], []⟩ waypoints).2

end Thinning

end Toolpath
