import Mathlib.Analysis.InnerProductSpace.PiL2
import Toolpath.Proofs.Machine.Chain
import Toolpath.Proofs.Move.Cutting
import Toolpath.Proofs.Move.Thinning

/-!
# Requests hand on thinned waypoints

A request is cut into the segments of a walk, and the waypoints of the walk are thinned on their way
to the planner. When a request ends well, the planner has taken the blocks to the waypoints that the
thinning takes, the tally counts these among all waypoints, and the tool was last sent to the
reference of the thinning.
-/

namespace Toolpath

variable {α σ : Type} [Scalar α]

/-- What hands out the waypoints of a request. -/
inductive Walk (α : Type) where
  /-- Nothing is moved. -/
  | rest
  /-- The segments of a line. -/
  | line (walk : LineWalk α)
  /-- The segments of an arc. -/
  | arc (walk : ArcWalk α)

namespace Walk

/-- Waypoints that are handed out. -/
def waypoints : Walk α → List (Waypoint α)
  | .rest => []
  | .line walk => WaypointSupply.toList walk
  | .arc walk => WaypointSupply.toList walk

/-- Number of segments. -/
def segments : Walk α → Nat
  | .rest => 0
  | .line walk => walk.segments.toNat
  | .arc walk => walk.plan.segments.toNat

/-- Where the walk leads, if it leads anywhere. -/
def target? : Walk α → Option (PerAxis α)
  | .rest => none
  | .line walk => some walk.target
  | .arc walk => some walk.plan.target

/-- Nothing has been handed out yet. -/
def Fresh : Walk α → Prop
  | .rest => True
  | .line walk => walk.cursor = 1
  | .arc walk => walk.cursor = 1

/-- A fresh walk has one waypoint for each segment. -/
theorem waypoints_length {walk : Walk α} (hfresh : walk.Fresh) :
    walk.waypoints.length = walk.segments := by
  cases walk with
  | rest => rfl
  | line walk =>
    have hcursor : walk.cursor.toNat = 1 := congrArg UInt64.toNat hfresh
    rw [waypoints, LineWalk.length_toList, LineWalk.remaining, hcursor,
      Nat.add_sub_cancel, segments]
  | arc walk =>
    have hcursor : walk.cursor.toNat = 1 := congrArg UInt64.toNat hfresh
    rw [waypoints, ArcWalk.length_toList (by omega), ArcWalk.remaining, hcursor,
      Nat.add_sub_cancel, segments]

/-- The last waypoint of a fresh walk with segments is where it leads. -/
theorem getLast?_waypoints {walk : Walk α} (hfresh : walk.Fresh) {target : PerAxis α}
    (htarget : walk.target? = some target) (hsegments : 1 ≤ walk.segments) :
    ∃ rate, walk.waypoints.getLast? = some ⟨target, rate⟩ := by
  cases walk with
  | rest => cases htarget
  | line walk =>
    have hcursor : walk.cursor.toNat = 1 := congrArg UInt64.toNat hfresh
    have hle : walk.cursor.toNat ≤ walk.segments.toNat := hcursor.trans_le hsegments
    cases htarget
    exact ⟨walk.rate, LineWalk.getLast?_toList hle⟩
  | arc walk =>
    have hcursor : walk.cursor.toNat = 1 := congrArg UInt64.toNat hfresh
    have hle : walk.cursor.toNat ≤ walk.plan.segments.toNat := hcursor.trans_le hsegments
    cases htarget
    exact ⟨walk.plan.rate, ArcWalk.getLast?_toList hle⟩

end Walk

/-- What hands out the waypoints of a move in the mode that is in force. -/
def ProgramState.walk (program : ProgramState α) (settings : Settings α)
    (target offset : PerAxis α) : Walk α :=
  match program.mode with
  | .still => .rest
  | .seek => .line (.cut program.position target program.seekRate settings.maxLineSegment)
  | .feed => .line (.cut program.position target program.feedRate settings.maxLineSegment)
  | .arc turn =>
    .arc (.cut (.ofOffset program.position target offset turn program.plane) program.feedRate
      settings.maxArcSegment settings.correctionInterval)

/-- A move leads through the waypoints of its walk, which has not begun. -/
theorem ProgramState.course_eq_waypoints (program : ProgramState α) (settings : Settings α)
    (target offset : PerAxis α) :
    program.course settings target offset =
        (program.walk settings target offset).waypoints ∧
      (program.walk settings target offset).Fresh := by
  unfold course walk
  cases program.mode <;> exact ⟨rfl, by constructor⟩

namespace Machine

/-- What hands out the waypoints of a request. -/
def walk (machine : Machine α σ) : Request α → Walk α
  | .obey instruction =>
    let program := machine.program.withModes instruction
    (program.withRate instruction).walk machine.settings (program.target instruction)
      (program.centerOffset instruction)
  | .line target rate =>
    .line (.cut machine.program.position target rate machine.settings.maxLineSegment)
  | .arc target offset radius turn =>
    .arc (.cut ⟨machine.program.position, target, offset, radius, turn, machine.program.plane⟩
      machine.program.feedRate machine.settings.maxArcSegment
      machine.settings.correctionInterval)
  | .setPosition _ | .setMode _ | .adopt _ => .rest

/-- A request leads through the waypoints of its walk, which has not begun. -/
theorem course_eq_waypoints (machine : Machine α σ) (request : Request α) :
    machine.course request = (machine.walk request).waypoints ∧ (machine.walk request).Fresh := by
  cases request with
  | obey instruction => exact ProgramState.course_eq_waypoints _ _ _ _
  | line target rate => exact ⟨rfl, rfl⟩
  | arc target offset radius turn => exact ⟨rfl, rfl⟩
  | setPosition position => exact ⟨rfl, trivial⟩
  | setMode mode => exact ⟨rfl, trivial⟩
  | adopt config => exact ⟨rfl, trivial⟩

/-- Thinning of the waypoints of a request, from where the tool was last sent. -/
def thinning (machine : Machine α σ) (request : Request α) : Thinning α :=
  .scan machine.dispatcher.last (machine.walk request).waypoints

/-- The legs of a request lead through the waypoints of its walk. -/
theorem legs_eq_through (machine : Machine α σ) (request : Request α) :
    machine.legs request =
      Leg.through machine.dispatcher.last (machine.walk request).waypoints := by
  rw [legs, (machine.course_eq_waypoints request).1]
  rfl

/-- The legs of a request end at the waypoints that the thinning takes. -/
theorem thinning_taken (machine : Machine α σ) (request : Request α) :
    (machine.thinning request).taken = (machine.legs request).map Leg.waypoint := by
  rw [legs_eq_through]
  exact Thinning.scan_taken _ _

/-- They lead to the reference at which it ends. -/
theorem thinning_reference (machine : Machine α σ) (request : Request α) :
    (machine.thinning request).reference =
      Leg.finish machine.dispatcher.last (machine.legs request) := by
  rw [legs_eq_through]
  exact Thinning.scan_reference _ _

/-- Of the waypoints, one for each segment, those that are taken are counted as blocks. -/
theorem tally_eq_thinning (machine : Machine α σ) (request : Request α) :
    machine.tally request =
      ⟨(machine.walk request).segments, (machine.thinning request).taken.length⟩ := by
  obtain ⟨hcourse, hfresh⟩ := machine.course_eq_waypoints request
  rw [tally, hcourse, Walk.waypoints_length hfresh, thinning_taken, List.length_map]

/-- The others are those that are skipped. -/
theorem tally_skipped (machine : Machine α σ) (request : Request α) :
    (machine.tally request).skipped = (machine.thinning request).skipped.length := by
  have hlength := (Thinning.scan_perm machine.dispatcher.last
    (machine.walk request).waypoints).length_eq
  rw [List.length_append, Walk.waypoints_length (machine.course_eq_waypoints request).2] at hlength
  rw [tally_eq_thinning, Tally.skipped]
  exact Nat.sub_eq_of_eq_add' hlength.symm

/-- Requests hand on the thinned waypoints of their walks. Take any machine, whatever planner it
has, and any request that ends well. Its walk has one waypoint for each segment, and these are
thinned from where the tool was last sent. The blocks that the planner took for the request are
those of linked legs to the waypoints that are taken, and the tool was last sent to the reference at
which the thinning ends. The tally counts all waypoints, and as blocks those that are taken; the
others are those that are skipped. A walk with segments leaves the tool at its target, or near to
it. -/
theorem perform_thinned (downstream : Downstream α σ) {machine : Machine α (σ × Journal α)}
    {request : Request α} {tally : Tally}
    (hok : (machine.perform downstream.journaled request).1 = .moved (.ok tally)) :
    let walk := machine.walk request
    let thinning := Thinning.scan machine.dispatcher.last walk.waypoints
    let after := (machine.perform downstream.journaled request).2
    (∃ legs, Leg.Linked machine.dispatcher.last legs ∧
      legs.map Leg.waypoint = thinning.taken ∧
      after.journal.accepted =
        machine.journal.accepted ++ legs.map (Leg.block machine.dispatcher.kinematics)) ∧
    thinning.taken.Sublist walk.waypoints ∧
    after.dispatcher.last = thinning.reference ∧
    walk.waypoints.length = walk.segments ∧
    tally.waypoints = walk.segments ∧
    tally.blocks = thinning.taken.length ∧
    tally.blocks ≤ tally.waypoints ∧
    tally.skipped = thinning.skipped.length ∧
    ∀ target, walk.target? = some target → 1 ≤ walk.segments →
      after.dispatcher.last = target ∨
        (after.dispatcher.last.vectorTo target).norm < leastMove := by
  intro walk thinning after
  obtain ⟨rfl, htaken, hlast⟩ := perform_of_ok hok
  have hfresh : walk.Fresh := (machine.course_eq_waypoints request).2
  have hlength : walk.waypoints.length = walk.segments := Walk.waypoints_length hfresh
  have hreference : after.dispatcher.last = thinning.reference :=
    hlast.trans (machine.thinning_reference request).symm
  have hlinked : Leg.Linked machine.dispatcher.last (machine.legs request) := Leg.through_linked _ _
  have haccepted : after.journal.accepted = machine.journal.accepted ++
      (machine.legs request).map (Leg.block machine.dispatcher.kinematics) := by
    rw [perform_accepted, marks_blocks, htaken, List.take_length]
    rfl
  have hsublist : thinning.taken.Sublist walk.waypoints := Thinning.scan_sublist _ _
  have hwaypoints : (machine.tally request).waypoints = walk.segments := by
    rw [tally_eq_thinning]
  have hblocks : (machine.tally request).blocks = thinning.taken.length := by
    rw [tally_eq_thinning]
    rfl
  refine ⟨⟨machine.legs request, hlinked, (machine.thinning_taken request).symm, haccepted⟩,
    hsublist, hreference, hlength, hwaypoints, hblocks, ?_, machine.tally_skipped request,
    fun target htarget hsegments => ?_⟩
  · rw [hblocks, hwaypoints, ← hlength]
    exact hsublist.length_le
  · obtain ⟨rate, harrive⟩ := Walk.getLast?_waypoints hfresh htarget hsegments
    rw [hreference]
    exact Thinning.scan_near harrive _

/-- The standard machine over a recorder, but with lines cut into segments that are shorter than the
least move. -/
noncomputable def fine : Machine ℝ (List (Block ℝ) × Journal ℝ) :=
  { standard ([], []) with
    settings := { (Configuration.standard : Configuration ℝ).settings with
      maxLineSegment := 3 / 5000 } }

/-- A line of three such segments. -/
noncomputable def fineTarget : PerAxis ℝ := ⟨9 / 5000, 0, 0⟩

/-- The line is as long as three segments. -/
theorem norm_fineTarget : (fine.program.position.vectorTo fineTarget).norm = 9 / 5000 := by
  have hnorm : (fine.program.position.vectorTo fineTarget).norm = √((9 / 5000) ^ 2) := by
    change √((9 / 5000 - 0.0) * (9 / 5000 - 0.0) + (0 - 0.0) * (0 - 0.0) +
      (0 - 0.0) * (0 - 0.0)) = _
    norm_num
  rw [hnorm, Real.sqrt_sq (by norm_num)]

/-- It is cut in three. -/
theorem segments_fineTarget :
    (LineWalk.cut fine.program.position fineTarget 1 (3 / 5000)).segments.toNat = 3 := by
  have hlength : 0 < (fine.program.position.vectorTo fineTarget).norm := by
    rw [norm_fineTarget]
    norm_num
  have hcount : (fine.program.position.vectorTo fineTarget).norm / (3 / 5000) ≤ 2 ^ 32 - 1 := by
    rw [norm_fineTarget]
    norm_num
  refine (LineWalk.exact_cut_isLeast 1 hlength (by norm_num) hcount).unique ?_
  rw [norm_fineTarget]
  refine ⟨⟨by norm_num, by norm_num⟩, fun count hallowed => ?_⟩
  obtain ⟨hone, hle⟩ := hallowed
  have hpos : (0 : ℝ) < count := by exact_mod_cast hone
  rw [div_le_iff₀ hpos] at hle
  have hthree : (3 : ℝ) ≤ count := by linarith
  exact_mod_cast hthree

/-- The thinning of the line takes the second of its waypoints alone: the first is too near to the
start, and the third is too near to the second. -/
theorem scan_fineTarget :
    let thinning := Thinning.scan fine.dispatcher.last (fine.walk (.line fineTarget 1)).waypoints
    thinning.reference = fine.program.position.between fineTarget (2 / 3) ∧
      thinning.taken.length = 1 := by
  intro thinning
  let line : LineWalk ℝ := .cut fine.program.position fineTarget 1 (3 / 5000)
  have hsegments : line.segments.toNat = 3 := segments_fineTarget
  have hwaypoints : (fine.walk (.line fineTarget 1)).waypoints =
      [line.waypointAt 1, line.waypointAt 2, line.waypointAt 3] := by
    have htoList : (fine.walk (.line fineTarget 1)).waypoints =
        (List.range' 1 line.segments.toNat).map fun index => line.waypointAt (.ofNat index) :=
      LineWalk.cut_toList fine.program.position fineTarget 1 (3 / 5000)
    rw [htoList, hsegments]
    rfl
  have hpoint {index : ℕ} (hpos : 1 ≤ index) (hle : index ≤ 3) :
      (line.waypointAt (.ofNat index)).point =
        fine.program.position.between fineTarget (index / 3) := by
    have hat := LineWalk.exact_pointAt fine.program.position fineTarget 1 (3 / 5000) hpos
      (segments_fineTarget.symm ▸ hle)
    rw [segments_fineTarget] at hat
    exact hat
  have hdistance (first second : ℝ) : ((fine.program.position.between fineTarget first).vectorTo
      (fine.program.position.between fineTarget second)).norm = |second - first| * (9 / 5000) := by
    rw [PerAxis.exact_norm_between, norm_fineTarget]
  have hbegin : fine.dispatcher.last = fine.program.position.between fineTarget 0 :=
    (PerAxis.between_zero _ _).symm
  have hfirst : (Leg.mk fine.dispatcher.last (line.waypointAt 1)).length < leastMove := by
    change (fine.dispatcher.last.vectorTo (line.waypointAt (.ofNat 1)).point).norm < _
    rw [hpoint le_rfl (by norm_num), hbegin, hdistance, leastMove]
    norm_num
  have hsecond : ¬ (Leg.mk fine.dispatcher.last (line.waypointAt 2)).length < leastMove := by
    change ¬ (fine.dispatcher.last.vectorTo (line.waypointAt (.ofNat 2)).point).norm < _
    rw [hpoint one_le_two (by norm_num), hbegin, hdistance, leastMove]
    norm_num
  have hthird : (Leg.mk (line.waypointAt 2).point (line.waypointAt 3)).length < leastMove := by
    change ((line.waypointAt (.ofNat 2)).point.vectorTo
      (line.waypointAt (.ofNat 3)).point).norm < _
    rw [hpoint one_le_two (by norm_num), hpoint (by norm_num) le_rfl, hdistance, leastMove]
    norm_num
  have hthrough : Leg.through fine.dispatcher.last (fine.walk (.line fineTarget 1)).waypoints =
      [⟨fine.dispatcher.last, line.waypointAt 2⟩] := by
    rw [hwaypoints, Leg.through_of_near hfirst, Leg.through_of_far hsecond,
      Leg.through_of_near hthird]
    rfl
  have htaken : thinning.taken = [line.waypointAt 2] := by
    rw [Thinning.scan_taken, hthrough]
    rfl
  refine ⟨?_, congrArg List.length htaken⟩
  rw [Thinning.scan_reference, hthrough]
  exact hpoint one_le_two (by norm_num)

/-- Of the three waypoints of such a line the second alone becomes a block: the first is too near to
the start, and the third is too near to the second. -/
theorem perform_thinned_fine :
    let outcome := fine.perform Downstream.recorder.journaled (.line fineTarget 1)
    outcome.1 = .moved (.ok ⟨3, 1⟩) ∧
    outcome.2.journal.accepted.length = 1 ∧
    outcome.2.dispatcher.last = fine.program.position.between fineTarget (2 / 3) ∧
    (outcome.2.dispatcher.last.vectorTo fineTarget).norm < leastMove := by
  intro outcome
  let request : Request ℝ := .line fineTarget 1
  have htakes := (Downstream.recorder_takesEach
    ((fine.blocks request).map (Order.mk fine.dispatcher.poll)) []).journaled []
  have hperform : outcome = _ := perform_of_takesEach htakes fun count hcount => by
    rw [List.eq_of_mem_replicate hcount]
    exact Nat.zero_lt_one
  have hok : outcome.1 = .moved (.ok (fine.tally request)) := congrArg Prod.fst hperform
  obtain ⟨hreference, htaken⟩ := scan_fineTarget
  obtain ⟨⟨legs, -, hlegs, haccepted⟩, -, hlast, -, hwaypoints, hblocks, -, -, harrive⟩ :=
    perform_thinned .recorder hok
  have hsegments : (fine.walk request).segments = 3 := segments_fineTarget
  have htally : fine.tally request = ⟨3, 1⟩ := by
    rw [hsegments] at hwaypoints
    rw [htaken] at hblocks
    exact congrArg₂ Tally.mk hwaypoints hblocks
  refine ⟨htally ▸ hok, ?_, hlast.trans hreference, ?_⟩
  · rw [haccepted, List.length_append, List.length_map, ← List.length_map Leg.waypoint, hlegs,
      htaken]
    rfl
  · rcases harrive fineTarget rfl (hsegments.symm ▸ by norm_num) with hat | hnear
    · rw [hat]
      exact PerAxis.exact_norm_vectorTo_self_lt fineTarget
    · exact hnear

end Machine

end Toolpath
