import Toolpath.Proofs.Lists
import Toolpath.Proofs.Move.Leg

/-!
# Marks of where the tool was last sent

Where the tool was last sent changes in two ways: a position is declared, or the block of a
waypoint is taken. Marks list these changes, the first one first. They form a chain when every
block leads from where the marks before it end to its own waypoint.
-/

namespace Toolpath

variable {α : Type}

/-- A change of where the tool was last sent. -/
inductive Mark (α : Type) where
  /-- The position was declared. -/
  | declared (position : PerAxis α)
  /-- The block of a waypoint was taken. -/
  | taken (waypoint : Waypoint α) (block : Block α)

namespace Mark

/-- Where the tool was last sent, as the mark has it. -/
def point : Mark α → PerAxis α
  | declared position => position
  | taken waypoint _ => waypoint.point

/-- Waypoint of the mark, if a block was taken. -/
def waypoint? : Mark α → Option (Waypoint α)
  | declared _ => none
  | taken waypoint _ => some waypoint

/-- Block of the mark, if one was taken. -/
def block? : Mark α → Option (Block α)
  | declared _ => none
  | taken _ block => some block

/-- Where marks lead that begin at a point: to the last of them. -/
def track (origin : PerAxis α) (marks : List (Mark α)) : PerAxis α :=
  marks.foldl (fun _ mark => mark.point) origin

/-- Marks that go on from others lead on from where these lead. -/
theorem track_append (origin : PerAxis α) (first second : List (Mark α)) :
    track origin (first ++ second) = track (track origin first) second := List.foldl_append

variable [Scalar α]

/-- Every block that was taken leads from where the marks before it end to its own waypoint, is
not too short, and has the motor steps of that waypoint. -/
def Chained (kinematics : Kinematics α) (origin : PerAxis α) (marks : List (Mark α)) : Prop :=
  ∀ before after waypoint block, marks = before ++ .taken waypoint block :: after →
    block.displacement = (track origin before).vectorTo waypoint.point ∧
    block.length = block.displacement.norm ∧
    ¬ block.length < leastMove ∧
    block.steps = kinematics.steps waypoint.point

variable {kinematics : Kinematics α}

/-- No marks form a chain. -/
theorem chained_nil (origin : PerAxis α) : Chained kinematics origin [] := by
  intro before after waypoint block h
  exact absurd h.symm (append_cons_ne_nil _ _ _)

/-- A declared position is a chain of its own. -/
theorem chained_declared (origin position : PerAxis α) :
    Chained kinematics origin [.declared position] := by
  intro before after waypoint block h
  obtain ⟨-, hmark, -⟩ := singleton_eq_append_cons h
  cases hmark

/-- A chain goes on where another one ends. -/
theorem Chained.append {origin : PerAxis α} {first second : List (Mark α)}
    (hfirst : Chained kinematics origin first)
    (hsecond : Chained kinematics (track origin first) second) :
    Chained kinematics origin (first ++ second) := by
  intro before after waypoint block h
  rcases append_eq_append_cons h with ⟨middle, hmiddle, -⟩ | ⟨middle, rfl, hmiddle⟩
  · exact hfirst before middle waypoint block hmiddle
  · rw [track_append]
    exact hsecond middle after waypoint block hmiddle

/-- The mark of a leg whose block was taken. -/
def ofLeg (kinematics : Kinematics α) (leg : Leg α) : Mark α :=
  .taken leg.waypoint (leg.block kinematics)

/-- Legs lead where their marks lead. -/
theorem track_legs (origin : PerAxis α) (legs : List (Leg α)) :
    track origin (legs.map (ofLeg kinematics)) = Leg.finish origin legs := by
  rw [track, List.foldl_map]
  rfl

/-- The blocks of the marks of legs are those of the legs. -/
theorem blocks_legs (legs : List (Leg α)) :
    (legs.map (ofLeg kinematics)).filterMap block? = legs.map (Leg.block kinematics) := by
  rw [List.filterMap_map]
  exact congrFun List.filterMap_eq_map legs

/-- The waypoints of the marks of legs are those of the legs. -/
theorem waypoints_legs (legs : List (Leg α)) :
    (legs.map (ofLeg kinematics)).filterMap waypoint? = legs.map Leg.waypoint := by
  rw [List.filterMap_map]
  exact congrFun List.filterMap_eq_map legs

/-- The marks of linked legs that are long enough form a chain. -/
theorem chained_legs {origin : PerAxis α} {legs : List (Leg α)} (hlinked : Leg.Linked origin legs)
    (hfar : ∀ leg ∈ legs, ¬ leg.length < leastMove) :
    Chained kinematics origin (legs.map (ofLeg kinematics)) := by
  induction legs generalizing origin with
  | nil => exact chained_nil origin
  | cons leg rest ih =>
    obtain ⟨rfl, hrest⟩ := hlinked
    obtain ⟨hleg, hothers⟩ := List.forall_mem_cons.mp hfar
    have hfirst : Chained kinematics leg.start [ofLeg kinematics leg] := by
      intro before after waypoint block h
      obtain ⟨rfl, hmark, -⟩ := singleton_eq_append_cons h
      cases hmark
      exact ⟨rfl, rfl, hleg, rfl⟩
    exact hfirst.append (ih hrest hothers)

/-- Where numbers are exact, the displacements of a chain of taken blocks add up to the way from
its beginning to its end, on every axis. -/
theorem Chained.sum_displacements {origin : PerAxis α} (hexact : ∀ x y : α, x + (y - x) = y)
    {before marks : List (Mark α)} (h : Chained kinematics origin (before ++ marks))
    (htaken : ∀ mark ∈ marks, mark.block?.isSome) (axis : Axis) :
    (marks.filterMap block?).foldl (fun sum block => sum + block.displacement.get axis)
      ((track origin before).get axis) = (track origin (before ++ marks)).get axis := by
  induction marks generalizing before with
  | nil => rw [List.append_nil, List.filterMap_nil, List.foldl_nil]
  | cons mark rest ih =>
    obtain ⟨hmark, hrest⟩ := List.forall_mem_cons.mp htaken
    cases mark with
    | declared position => cases hmark
    | taken waypoint block =>
      have hblock := (h before rest waypoint block rfl).1
      have hstep : (track origin before).get axis + block.displacement.get axis =
          (track origin (before ++ [.taken waypoint block])).get axis := by
        rw [hblock, PerAxis.vectorTo_get, hexact, track_append]
        rfl
      rw [List.append_cons] at h ⊢
      rw [List.filterMap_cons, ← ih h hrest, ← hstep]
      rfl

end Mark

end Toolpath
