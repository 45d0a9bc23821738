import Mathlib.Data.List.Induction
import Toolpath.Proofs.Lists
import Toolpath.Proofs.Machine.Chain
import Toolpath.Proofs.Machine.Independence
import Toolpath.Proofs.Move.Rate
import Toolpath.Proofs.Program.Rates

/-!
# Where rates come from

The rate of seek moves and the one of all others each come from one place in the history of a
machine: from the last instruction that gave it, or from the configuration in use if none did since
that was taken over. All blocks of a request have one of them, or the rate that the request names.
Nothing of this depends on what the planner says.
-/

namespace Toolpath

variable {α σ τ : Type} [Scalar α]

/-- The configuration that is in use after some requests: the last one that was taken over, and the
one before the requests if there is none. -/
def configInForce (config : Configuration α) (requests : List (Request α)) : Configuration α :=
  (requests.filterMap Request.config?).getLast?.getD config

/-- A request that brings no usable configuration leaves the one in use. -/
theorem configInForce_concat_of_none (config : Configuration α) (requests : List (Request α))
    {request : Request α} (h : request.config? = none) :
    configInForce config (requests ++ [request]) = configInForce config requests := by
  rw [configInForce, List.filterMap_append, List.filterMap_cons_none h, List.filterMap_nil,
    List.append_nil, configInForce]

/-- A usable configuration is in use once it is taken over. -/
theorem configInForce_concat_of_some (config : Configuration α) (requests : List (Request α))
    {request : Request α} {brought : Configuration α} (h : request.config? = some brought) :
    configInForce config (requests ++ [request]) = brought := by
  rw [configInForce, List.filterMap_append, List.filterMap_cons_some h, List.filterMap_nil,
    List.getLast?_concat, Option.getD_some]

namespace ProgramState

/-- A configuration that is taken over brings its own rates. -/
theorem after_rate_of_config {program : ProgramState α} {request : Request α}
    {config : Configuration α} (h : request.config? = some config) (kind : RateKind) :
    (program.after request).rate kind = config.defaultRate kind := by
  obtain ⟨rfl, hfault⟩ := Request.config?_eq_some_iff.mp h
  rw [after, hfault]
  cases kind <;> rfl

/-- A rate that an instruction gives is in force after it. -/
theorem after_rate_of_gives {program : ProgramState α} {kind : RateKind}
    {instruction : Instruction α} {value : α} (h : program.GivesRate kind instruction value) :
    (program.after (.obey instruction)).rate kind =
      (program.withModes instruction).inMillimeters value / 60.0 := by
  rw [← withRate_rate_of_gives h]
  exact rate_withPosition _ _ kind

/-- A request gives no rate, if it is no instruction that gives it. -/
def Keeps (program : ProgramState α) (kind : RateKind) (request : Request α) : Prop :=
  ∀ instruction value, request = .obey instruction → ¬ program.GivesRate kind instruction value

/-- A rate is changed by nothing but an instruction that gives it or another configuration. -/
theorem after_rate_of_keeps {program : ProgramState α} {request : Request α} {kind : RateKind}
    (hconfig : request.config? = none) (hkeeps : program.Keeps kind request) :
    (program.after request).rate kind = program.rate kind := by
  cases request with
  | obey instruction =>
    rw [← withRate_rate_of_not_gives fun value => hkeeps instruction value rfl]
    exact rate_withPosition _ _ kind
  | adopt config =>
    cases hfault : config.fault? with
    | some fault => rw [after, hfault]
    | none =>
      rw [Request.config?_eq_some_iff.mpr ⟨rfl, hfault⟩] at hconfig
      cases hconfig
  | line _ _ | arc _ _ _ _ => rfl
  | setPosition position => exact rate_withPosition program position kind
  | setMode _ => cases kind <;> rfl

/-- One more request acts on what the others leave. -/
theorem afterAll_concat (program : ProgramState α) (requests : List (Request α))
    (request : Request α) :
    program.afterAll (requests ++ [request]) = (program.afterAll requests).after request :=
  List.foldl_concat _ _ _ _

/-- Every instruction of a run that gave a rate was followed by another configuration. -/
def Renewed (run : List (Request α) → ProgramState α) (kind : RateKind)
    (requests : List (Request α)) : Prop :=
  ∀ first instruction rest value, requests = first ++ .obey instruction :: rest →
    (run first).GivesRate kind instruction value → ∃ request ∈ rest, request.config?.isSome

/-- An instruction of a run gave a rate, and so did none after it and no other configuration. -/
structure LastGives (run : List (Request α) → ProgramState α) (kind : RateKind)
    (first : List (Request α)) (instruction : Instruction α) (rest : List (Request α))
    (value : α) : Prop where
  /-- The instruction gives the rate where it stands. -/
  gives : (run first).GivesRate kind instruction value
  /-- No configuration is taken over after it. -/
  config?_eq_none : ∀ request ∈ rest, request.config? = none
  /-- No instruction after it gives the rate. -/
  keeps : ∀ before request after, rest = before ++ request :: after →
    (run (first ++ .obey instruction :: before)).Keeps kind request

section Provenance

variable {run : List (Request α) → ProgramState α} {kind : RateKind}
  {requests first rest : List (Request α)} {request : Request α} {instruction : Instruction α}
  {value : α}

/-- Nothing gave a rate before the first request. -/
theorem renewed_nil : Renewed run kind [] :=
  fun before _ after _ hsplit => absurd hsplit.symm (append_cons_ne_nil before after _)

/-- An instruction at the end that gives a rate gives it last. -/
theorem lastGives_nil (h : (run first).GivesRate kind instruction value) :
    LastGives run kind first instruction [] value :=
  ⟨h, List.forall_mem_nil _, fun before _ after hsplit =>
    absurd hsplit.symm (append_cons_ne_nil before after _)⟩

/-- A configuration at the end renews a rate. -/
theorem renewed_concat_of_config {config : Configuration α} (h : request.config? = some config) :
    Renewed run kind (requests ++ [request]) := by
  intro before instruction after value hsplit _
  obtain ⟨middle, -, rfl⟩ | ⟨middle, -, hlast⟩ := append_eq_append_cons hsplit
  · exact ⟨request, List.mem_concat_self, Option.isSome_of_eq_some h⟩
  · obtain ⟨-, rfl, -⟩ := singleton_eq_append_cons hlast
    cases h

/-- Where a rate is renewed, a request at the end that does not give it makes no difference. -/
theorem renewed_concat_of_keeps (h : Renewed run kind requests)
    (hkeeps : (run requests).Keeps kind request) : Renewed run kind (requests ++ [request]) := by
  intro before instruction after value hsplit hgives
  obtain ⟨middle, hrequests, rfl⟩ | ⟨middle, hbefore, hlast⟩ := append_eq_append_cons hsplit
  · obtain ⟨other, hmem, hother⟩ := h before instruction middle value hrequests hgives
    exact ⟨other, List.mem_append_left _ hmem, hother⟩
  · obtain ⟨rfl, rfl, -⟩ := singleton_eq_append_cons hlast
    rw [List.append_nil] at hbefore
    rw [hbefore] at hgives
    exact absurd hgives (hkeeps instruction value rfl)

/-- A rate that is renewed, but not by the last request, was renewed before it and is kept by it. -/
theorem Renewed.of_concat (h : Renewed run kind (requests ++ [request]))
    (hconfig : request.config? = none) :
    Renewed run kind requests ∧ (run requests).Keeps kind request := by
  refine ⟨fun before instruction after value hsplit hgives => ?_, ?_⟩
  · obtain ⟨other, hmem, hother⟩ := h before instruction (after ++ [request]) value
      (by rw [hsplit, List.append_assoc, List.cons_append]) hgives
    rcases List.mem_append.mp hmem with hafter | hlast
    · exact ⟨other, hafter, hother⟩
    · rw [List.mem_singleton.mp hlast, hconfig] at hother
      cases hother
  · rintro instruction value rfl hgives
    obtain ⟨_, hmem, -⟩ := h requests instruction [] value rfl hgives
    cases hmem

/-- The instruction that gave a rate last is so before a request at the end as well, and the request
keeps the rate. -/
theorem LastGives.of_concat (h : LastGives run kind first instruction (rest ++ [request]) value) :
    LastGives run kind first instruction rest value ∧ request.config? = none ∧
      (run (first ++ .obey instruction :: rest)).Keeps kind request := by
  refine ⟨⟨h.gives, fun other hother => ?_, fun before other after hsplit => ?_⟩, ?_, ?_⟩
  · exact h.config?_eq_none other (List.mem_append_left _ hother)
  · exact h.keeps before other (after ++ [request])
      (by rw [hsplit, List.append_assoc, List.cons_append])
  · exact h.config?_eq_none request List.mem_concat_self
  · exact h.keeps rest request [] rfl

/-- The instruction that gave a rate last stays so behind which a request keeps the rate. -/
theorem LastGives.concat (h : LastGives run kind first instruction rest value)
    (hconfig : request.config? = none)
    (hkeeps : (run (first ++ .obey instruction :: rest)).Keeps kind request) :
    LastGives run kind first instruction (rest ++ [request]) value := by
  refine ⟨h.gives, fun other hother => ?_, fun before other after hsplit => ?_⟩
  · rcases List.mem_append.mp hother with hrest | hlast
    · exact h.config?_eq_none other hrest
    · rw [List.mem_singleton.mp hlast]
      exact hconfig
  · obtain ⟨middle, hrest, -⟩ | ⟨middle, hbefore, hlast⟩ := append_eq_append_cons hsplit
    · exact h.keeps before other middle hrest
    · obtain ⟨rfl, rfl, -⟩ := singleton_eq_append_cons hlast
      rw [hbefore, List.append_nil]
      exact hkeeps

/-- Whatever a run was, a rate of it is renewed, or there is an instruction that gave it last. -/
theorem renewed_or_lastGives (run : List (Request α) → ProgramState α) (kind : RateKind)
    (requests : List (Request α)) :
    Renewed run kind requests ∨ ∃ first instruction rest value,
      requests = first ++ .obey instruction :: rest ∧
        LastGives run kind first instruction rest value := by
  induction requests using List.reverseRecOn with
  | nil => exact .inl renewed_nil
  | append_singleton requests request ih =>
    cases hconfig : request.config? with
    | some config => exact .inl (renewed_concat_of_config hconfig)
    | none =>
      by_cases hkeeps : (run requests).Keeps kind request
      · rcases ih with hrenewed | ⟨first, instruction, rest, value, rfl, hlast⟩
        · exact .inl (renewed_concat_of_keeps hrenewed hkeeps)
        · exact .inr ⟨first, instruction, rest ++ [request], value,
            by rw [List.append_assoc, List.cons_append], hlast.concat hconfig hkeeps⟩
      · -- the last request is an instruction that gives the rate
        simp only [Keeps, not_forall, not_not] at hkeeps
        obtain ⟨instruction, value, rfl, hgives⟩ := hkeeps
        exact .inr ⟨requests, instruction, [], value, rfl, lastGives_nil hgives⟩

end Provenance

/-- A rate that is renewed is the default of the configuration in use. -/
theorem Renewed.afterAll_rate {program : ProgramState α} {config : Configuration α}
    {kind : RateKind} (hnew : program.rate kind = config.defaultRate kind)
    {requests : List (Request α)} (h : Renewed program.afterAll kind requests) :
    (program.afterAll requests).rate kind = (configInForce config requests).defaultRate kind := by
  induction requests using List.reverseRecOn with
  | nil => exact hnew
  | append_singleton requests request ih =>
    rw [afterAll_concat]
    cases hconfig : request.config? with
    | some brought =>
      rw [after_rate_of_config hconfig, configInForce_concat_of_some config requests hconfig]
    | none =>
      obtain ⟨hbefore, hkeeps⟩ := h.of_concat hconfig
      rw [after_rate_of_keeps hconfig hkeeps, configInForce_concat_of_none config requests hconfig]
      exact ih hbefore

/-- A rate that an instruction gave last is its number, in the unit that it puts in force. -/
theorem LastGives.afterAll_rate {program : ProgramState α} {kind : RateKind}
    {first : List (Request α)} {instruction : Instruction α} {rest : List (Request α)} {value : α}
    (h : LastGives program.afterAll kind first instruction rest value) :
    (program.afterAll (first ++ .obey instruction :: rest)).rate kind =
      ((program.afterAll first).withModes instruction).inMillimeters value / 60.0 := by
  induction rest using List.reverseRecOn with
  | nil =>
    rw [afterAll_concat]
    exact after_rate_of_gives h.gives
  | append_singleton rest request ih =>
    obtain ⟨hbefore, hconfig, hkeeps⟩ := h.of_concat
    rw [← List.cons_append, ← List.append_assoc, afterAll_concat,
      after_rate_of_keeps hconfig hkeeps]
    exact ih hbefore

/-- Rate of the blocks of a request in millimeters per minute, by the program after it. The mode
then in force decides for an instruction. The other moves name their rate or have that of arcs. -/
def blockRate? (after : ProgramState α) : Request α → Option α
  | .obey _ =>
    match after.mode with
    | .seek => some (after.seekRate * 60.0)
    | .feed | .arc _ => some (after.feedRate * 60.0)
    | .still => none
  | .line _ rate => some (rate * 60.0)
  | .arc _ _ _ _ => some (after.feedRate * 60.0)
  | .setPosition _ | .setMode _ | .adopt _ => none

/-- The position has no say in the rate of blocks. -/
theorem blockRate?_withPosition (program : ProgramState α) (position : PerAxis α)
    (request : Request α) :
    { program with position }.blockRate? request = program.blockRate? request := by
  cases request <;> rfl

/-- Waypoints of a move have the rate that the blocks of an instruction have behind it, per second.
-/
theorem blockRate?_of_mem_course {program : ProgramState α} {settings : Settings α}
    {target offset : PerAxis α} {waypoint : Waypoint α} (instruction : Instruction α)
    (h : waypoint ∈ program.course settings target offset) :
    program.blockRate? (.obey instruction) = some (waypoint.rate * 60.0) := by
  rw [course] at h
  rw [blockRate?]
  cases hmode : program.mode with
  | still =>
    rw [hmode] at h
    cases h
  | seek =>
    rw [hmode] at h
    rw [LineWalk.rate_of_mem_toList _ waypoint h]
    rfl
  | feed =>
    rw [hmode] at h
    rw [LineWalk.rate_of_mem_toList _ waypoint h]
    rfl
  | arc turn =>
    rw [hmode] at h
    rw [ArcWalk.rate_of_mem_toList _ waypoint h]
    rfl

end ProgramState

namespace Machine

/-- A new machine has the default rates of its configuration. -/
theorem rate_of_withKinematics {config : Configuration α} {kinematics : Kinematics α} {planner : σ}
    {machine : Machine α σ} (h : withKinematics config kinematics planner = .ok machine)
    (kind : RateKind) : machine.program.rate kind = config.defaultRate kind := by
  obtain ⟨-, rfl⟩ := withKinematics_eq_ok_iff.mp h
  cases kind <;> rfl

/-- Waypoints of a request have the rate of its blocks, per second. -/
theorem blockRate?_of_mem_course {machine : Machine α σ} {request : Request α}
    {waypoint : Waypoint α} (h : waypoint ∈ machine.course request) :
    (machine.program.after request).blockRate? request = some (waypoint.rate * 60.0) := by
  cases request with
  | obey instruction =>
    have hmove := ProgramState.blockRate?_of_mem_course instruction h
    rw [← hmove]
    exact ProgramState.blockRate?_withPosition _ _ _
  | line target rate =>
    rw [LineWalk.rate_of_mem_toList _ waypoint h]
    rfl
  | arc target offset radius turn =>
    rw [ArcWalk.rate_of_mem_toList _ waypoint h]
    rfl
  | setPosition _ | setMode _ | adopt _ => cases h

/-- A request adds to the blocks that were taken none but some that have its rate. -/
theorem perform_accepted_rate (downstream : Downstream α σ) (machine : Machine α (σ × Journal α))
    (request : Request α) :
    ∃ blocks, (machine.perform downstream.journaled request).2.journal.accepted =
        machine.journal.accepted ++ blocks ∧
      ∀ block ∈ blocks, (machine.program.after request).blockRate? request = some block.rate := by
  refine ⟨_, perform_accepted downstream machine request, fun block hblock => ?_⟩
  rw [marks_blocks] at hblock
  obtain ⟨leg, hleg, rfl⟩ := List.mem_map.mp (List.mem_of_mem_take hblock)
  exact blockRate?_of_mem_course
    ((Leg.through_sublist _ _).subset (List.mem_map_of_mem hleg))

/-- Rates have one origin over whole runs. On a new machine, whatever is asked of it and whatever
the planner says, each of its two rates is renewed or was given last by some instruction. If it is
renewed, it is what the configuration in use gives for it per minute, divided by sixty. If it was
given last, it is the number that was given, in the unit that the modal settings of its instruction
put in force, divided by sixty. The blocks that the planner takes for a request all have one rate:
for an instruction the one that belongs to the mode after it, for the other moves the one that they
name or the rate of arcs. Nothing but instructions and usable configurations changes a rate. -/
theorem performAll_rates (downstream : Downstream α σ) (planner : σ) {config : Configuration α}
    {kinematics : Kinematics α} {machine : Machine α σ}
    (hnew : withKinematics config kinematics planner = .ok machine) :
    let run (requests : List (Request α)) : Machine α (σ × Journal α) :=
      (machine.runOver downstream planner requests).2
    let program (requests : List (Request α)) : ProgramState α := (run requests).program
    (∀ kind requests, ProgramState.Renewed program kind requests ∨
      ∃ first instruction rest value, requests = first ++ .obey instruction :: rest ∧
        ProgramState.LastGives program kind first instruction rest value) ∧
    (∀ requests, ProgramState.Renewed program .seek requests →
      (program requests).seekRate = (configInForce config requests).seekRate.value / 60.0) ∧
    (∀ requests, ProgramState.Renewed program .feed requests →
      (program requests).feedRate = (configInForce config requests).feedRate.value / 60.0) ∧
    (∀ first instruction rest value,
      ProgramState.LastGives program .seek first instruction rest value →
      (program (first ++ .obey instruction :: rest)).seekRate =
        ((program first).withModes instruction).inMillimeters value / 60.0) ∧
    (∀ first instruction rest value,
      ProgramState.LastGives program .feed first instruction rest value →
      (program (first ++ .obey instruction :: rest)).feedRate =
        ((program first).withModes instruction).inMillimeters value / 60.0) ∧
    ∀ first request,
      (∃ blocks, (run (first ++ [request])).journal.accepted =
          (run first).journal.accepted ++ blocks ∧
        ∀ block ∈ blocks, (program (first ++ [request])).blockRate? request = some block.rate) ∧
      ((∀ instruction, request ≠ .obey instruction) → request.config? = none →
        (program (first ++ [request])).seekRate = (program first).seekRate ∧
        (program (first ++ [request])).feedRate = (program first).feedRate) := by
  intro run program
  have hprogram : program = machine.program.afterAll :=
    funext fun requests =>
      performAll_program downstream.journaled (machine.onto (planner, [])) requests
  have hconcat (first : List (Request α)) (request : Request α) :
      run (first ++ [request]) = ((run first).perform downstream.journaled request).2 :=
    congrArg Prod.snd (performAll_append downstream.journaled (machine.onto (planner, [])) first
      [request])
  have hdefault (kind : RateKind) : machine.program.rate kind = config.defaultRate kind :=
    rate_of_withKinematics hnew kind
  refine ⟨ProgramState.renewed_or_lastGives program, ?_, ?_, ?_, ?_, fun first request => ⟨?_, ?_⟩⟩
  · rw [hprogram]
    exact fun requests h => h.afterAll_rate (hdefault .seek)
  · rw [hprogram]
    exact fun requests h => h.afterAll_rate (hdefault .feed)
  · rw [hprogram]
    exact fun first instruction rest value h => h.afterAll_rate
  · rw [hprogram]
    exact fun first instruction rest value h => h.afterAll_rate
  · have hrequest : program (first ++ [request]) = (run first).program.after request := by
      rw [hprogram, ProgramState.afterAll_concat, ← hprogram]
    rw [hconcat, hrequest]
    exact perform_accepted_rate downstream (run first) request
  · intro hmoves hconfig
    have hkeeps (kind : RateKind) :
        (program (first ++ [request])).rate kind = (program first).rate kind := by
      rw [hprogram, ProgramState.afterAll_concat]
      exact ProgramState.after_rate_of_keeps hconfig fun instruction _ h =>
        absurd h (hmoves instruction)
    exact ⟨hkeeps .seek, hkeeps .feed⟩

/-- The standard configuration with other rates. -/
noncomputable def standardAt (feed seek : ℝ) : Configuration ℝ :=
  { Configuration.standard with feedRate := ⟨feed⟩, seekRate := ⟨seek⟩ }

/-- Any positive rates make a usable configuration. -/
theorem exact_standardAt_fault? {feed seek : ℝ} (hfeed : 0 < feed) (hseek : 0 < seek) :
    (standardAt feed seek).fault? = none := by
  obtain ⟨hline, harc, -, -, hinterval, hratios⟩ :=
    (Configuration.fault?_eq_none_iff _).mp Configuration.exact_standard_fault?
  exact (Configuration.fault?_eq_none_iff _).mpr
    ⟨hline, harc, (exact_isPositive_iff feed).mpr hfeed, (exact_isPositive_iff seek).mpr hseek,
      hinterval, hratios⟩

/-- Line of a program that gives a rate of six hundred per minute and nothing else. -/
noncomputable def sixHundred : Instruction ℝ := .ofWords [⟨'F', 600⟩]

/-- A machine that moves at twenty and seeks at a hundred per second seeks, so that the line sets
its seek rate to ten and leaves the other. A configuration that is taken over then sets both. -/
theorem performAll_rates_sixHundred :
    let later := standardAt 300 3000
    ∃ machine : Machine ℝ (List (Block ℝ)),
      withKinematics (standardAt 1200 6000) DriveConfig.standard.kinematics [] = .ok machine ∧
      let program (requests : List (Request ℝ)) : ProgramState ℝ :=
        (machine.runOver .recorder [] requests).2.program
      (program []).seekRate = 100 ∧ (program []).feedRate = 20 ∧
      (program [.obey sixHundred]).seekRate = 10 ∧ (program [.obey sixHundred]).feedRate = 20 ∧
      (program [.obey sixHundred, .adopt later]).seekRate = 50 ∧
      (program [.obey sixHundred, .adopt later]).feedRate = 5 := by
  intro later
  have hlater : (Request.adopt later).config? = some later :=
    Request.config?_eq_some_iff.mpr ⟨rfl, exact_standardAt_fault? (by norm_num) (by norm_num)⟩
  obtain ⟨machine, hnew, hmode, hunit⟩ : ∃ machine : Machine ℝ (List (Block ℝ)),
      withKinematics (standardAt 1200 6000) DriveConfig.standard.kinematics [] = .ok machine ∧
      machine.program.mode = .seek ∧ machine.program.unit = .millimeter :=
    ⟨_, withKinematics_eq_ok_iff.mpr ⟨exact_standardAt_fault? (by norm_num) (by norm_num), rfl⟩,
      rfl, rfl⟩
  refine ⟨machine, hnew, ?_⟩
  intro program
  obtain ⟨-, hseek, hfeed, hgiven, -⟩ := performAll_rates .recorder [] hnew
  -- the line makes no modal setting, so that it gives the seek rate and keeps the other
  have hmodes : (program []).withModes sixHundred = machine.program := rfl
  have hgives : (program []).GivesRate .seek sixHundred 600 :=
    ⟨by rw [hmodes, hmode]; rfl, rfl⟩
  have hkeeps : (program []).Keeps .feed (.obey sixHundred) := by
    intro instruction value hline hfeeds
    cases hline
    have hkind : MoveMode.rateKind .seek = .feed := by
      rw [← hmode, ← hmodes]
      exact hfeeds.1
    cases hkind
  have hkept : ProgramState.Renewed program .feed [.obey sixHundred] :=
    ProgramState.renewed_concat_of_keeps ProgramState.renewed_nil hkeeps
  have hboth (kind : RateKind) :
      ProgramState.Renewed program kind ([.obey sixHundred] ++ [.adopt later]) :=
    ProgramState.renewed_concat_of_config hlater
  have hconfig :
      configInForce (standardAt 1200 6000) ([.obey sixHundred] ++ [.adopt later]) = later :=
    configInForce_concat_of_some _ _ hlater
  refine ⟨(hseek [] ProgramState.renewed_nil).trans ?_,
    (hfeed [] ProgramState.renewed_nil).trans ?_,
    (hgiven [] sixHundred [] 600 (ProgramState.lastGives_nil hgives)).trans ?_,
    (hfeed _ hkept).trans ?_,
    (hseek _ (hboth .seek)).trans ?_, (hfeed _ (hboth .feed)).trans ?_⟩
  · change (6000 : ℝ) / 60.0 = 100
    norm_num
  · change (1200 : ℝ) / 60.0 = 20
    norm_num
  · rw [hmodes, ProgramState.inMillimeters, hunit]
    change (600 : ℝ) / 60.0 = 10
    norm_num
  · change (1200 : ℝ) / 60.0 = 20
    norm_num
  · rw [hconfig]
    change (3000 : ℝ) / 60.0 = 50
    norm_num
  · rw [hconfig]
    change (300 : ℝ) / 60.0 = 5
    norm_num

end Machine

end Toolpath
