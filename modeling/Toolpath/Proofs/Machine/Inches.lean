import Mathlib.Analysis.SpecialFunctions.Complex.Arg
import Toolpath.Proofs.Machine.Gap
import Toolpath.Proofs.Machine.Translation
import Toolpath.Proofs.Planner.Delivery
import Toolpath.Proofs.Program.Measures

/-!
# Programs in inches

A program that stays in inches has an equivalent one in millimeters: the same program with all
lengths and rates divided by the inch scale. A machine then replies the same, hands on the same
blocks and ends in the same state, but for the unit. An inch is therefore far less than a
millimeter, and not the number of millimeters that the scale says.
-/

namespace Toolpath

variable {α σ : Type} [Scalar α]

/-- In millimeters an instruction that stays in the unit in force makes of the program what it
makes of it in that unit. -/
theorem ProgramState.obeyed_metric {state : ProgramState α} {instruction : Instruction α}
    (h : instruction.StaysIn state.unit) :
    (state.inUnit .millimeter).obeyed (instruction.metric state.unit) =
      (state.obeyed instruction).inUnit .millimeter := by
  have hunit := withModes_unit h
  simp only [obeyed]
  rw [Instruction.metric, withModes_remeasure, ← hunit, ← Instruction.metric, withRate_metric,
    target_metric]
  rfl

/-- An instruction that stays in the unit in force leaves it in force. -/
theorem ProgramState.obeyed_unit {state : ProgramState α} {instruction : Instruction α}
    (h : instruction.StaysIn state.unit) : (state.obeyed instruction).unit = state.unit := by
  obtain ⟨feedRate, seekRate, hrate⟩ := (state.withModes instruction).withRate_eq instruction
  simp only [obeyed, hrate]
  exact withModes_unit h

namespace Machine

/-- The same machine with another unit of lengths. -/
def inUnit (machine : Machine α σ) (unit : LengthUnit) : Machine α σ :=
  { machine with program := machine.program.inUnit unit }

/-- In millimeters an instruction that stays in the unit in force leads through the waypoints that
it leads through in that unit. -/
theorem course_metric {machine : Machine α σ} {instruction : Instruction α}
    (h : instruction.StaysIn machine.program.unit) :
    (machine.inUnit .millimeter).course (.obey (instruction.metric machine.program.unit)) =
      machine.course (.obey instruction) := by
  have hunit := ProgramState.withModes_unit h
  simp only [course, inUnit]
  rw [Instruction.metric, ProgramState.withModes_remeasure, ← hunit, ← Instruction.metric,
    ProgramState.withRate_metric, ProgramState.target_metric, ProgramState.centerOffset_metric]
  rfl

/-- In millimeters an instruction that stays in the unit in force is carried out as in that unit. -/
theorem obey_metric (downstream : Downstream α σ) {machine : Machine α σ}
    {instruction : Instruction α} (h : instruction.StaysIn machine.program.unit) :
    (machine.inUnit .millimeter).obey downstream (instruction.metric machine.program.unit) =
      ((machine.obey downstream instruction).1,
        (machine.obey downstream instruction).2.inUnit .millimeter) := by
  have hdispatcher : (machine.inUnit .millimeter).dispatcher = machine.dispatcher := rfl
  have hprogram := ProgramState.obeyed_metric h
  rw [obey_of_course_eq downstream hdispatcher (course_metric h)]
  simp only [inUnit]
  rw [hprogram, obey_program, obey_eq_deliver]
  rfl

/-- A program that stays in the unit in force is carried out in millimeters as in that unit. -/
theorem performAll_metric (downstream : Downstream α σ) (unit : LengthUnit)
    {machine : Machine α σ} (hunit : machine.program.unit = unit)
    {instructions : List (Instruction α)}
    (hstays : ∀ instruction ∈ instructions, instruction.StaysIn unit) :
    (machine.inUnit .millimeter).performAll downstream
        ((instructions.map fun instruction => instruction.metric unit).map .obey) =
      ((machine.performAll downstream (instructions.map .obey)).1,
        (machine.performAll downstream (instructions.map .obey)).2.inUnit .millimeter) := by
  subst hunit
  induction instructions generalizing machine with
  | nil => rfl
  | cons instruction rest ih =>
    obtain ⟨hfirst, hothers⟩ := List.forall_mem_cons.mp hstays
    -- the first instruction keeps the unit, so the others are translated from the same one
    have hunit : (machine.obey downstream instruction).2.program.unit = machine.program.unit := by
      rw [obey_program]
      exact ProgramState.obeyed_unit hfirst
    have hrest := @ih (machine.obey downstream instruction).2 (hunit ▸ hothers)
    rw [hunit] at hrest
    rw [List.map_cons, performAll_obey_cons, performAll_obey_cons, obey_metric downstream hfirst]
    dsimp only
    rw [hrest]

/-- A program in inches is carried out as the program in millimeters whose lengths and rates are
those of the program divided by the inch scale. Whatever state a machine is in, whatever numbers it
uses and whatever the planner says, started from the same state in millimeters the divided program
is replied to as the program is, asks the same of the planner, event for event, and leaves the same
state but for the unit, after every one of its instructions. -/
theorem performAll_inches (downstream : Downstream α σ)
    {machine : Machine α (σ × Journal α)} (hunit : machine.program.unit = .inch)
    {instructions : List (Instruction α)}
    (hstays : ∀ instruction ∈ instructions, instruction.StaysIn .inch) (count : Nat) :
    let divided := instructions.map (Instruction.remeasure fun value => value / inchScale)
    let run := machine.performAll downstream.journaled ((instructions.take count).map .obey)
    (machine.inUnit .millimeter).performAll downstream.journaled
        ((divided.take count).map .obey) = (run.1, run.2.inUnit .millimeter) := by
  intro divided run
  have htaken : divided.take count =
      (instructions.take count).map fun instruction => instruction.metric .inch :=
    List.map_take.symm
  rw [htaken]
  exact performAll_metric downstream.journaled .inch hunit fun instruction hinstruction =>
    hstays instruction (List.mem_of_mem_take hinstruction)

/-- The line along the first axis selects no unit. -/
theorem staysIn_tenAlongX (unit : LengthUnit) : (tenAlongX ((1 : ℤ) : ℝ)).StaysIn unit := by
  have hnumbers : (tenAlongX ((1 : ℤ) : ℝ)).numbers 'G' = [((1 : ℤ) : ℝ)] := rfl
  have hsetting : ModalSetting.ofNumber? ((1 : ℤ) : ℝ) = some (.move .feed) :=
    exact_ofNumber?_intCast 1
  intro selected hselected
  rw [Instruction.settings, hnumbers, List.filterMap_cons_some hsetting] at hselected
  cases hselected

/-- On the standard machine in inches the line along the first axis is the divided line in
millimeters. -/
theorem performAll_inches_tenAlongX :
    let machine : Machine ℝ (List (Block ℝ) × Journal ℝ) := (standard ([], [])).inUnit .inch
    let instruction : Instruction ℝ := tenAlongX ((1 : ℤ) : ℝ)
    let divided := instruction.remeasure fun value => value / inchScale
    let run := machine.performAll Downstream.recorder.journaled [.obey instruction]
    machine.program.unit = .inch ∧
    (∀ other ∈ [instruction], other.StaysIn .inch) ∧
    (machine.inUnit .millimeter).performAll Downstream.recorder.journaled [.obey divided] =
      (run.1, run.2.inUnit .millimeter) := by
  intro machine instruction divided run
  have hunit : machine.program.unit = .inch := rfl
  have hstays : ∀ other ∈ [instruction], other.StaysIn .inch :=
    List.forall_mem_singleton.mpr (staysIn_tenAlongX .inch)
  exact ⟨hunit, hstays, performAll_inches .recorder hunit hstays 1⟩

/-- Inches are not true to scale: the line of ten inches leads to less than half a millimeter, and
not to the two hundred and fifty-four that ten inches have. -/
theorem performAll_inches_ne_multiplied :
    let machine : Machine ℝ (List (Block ℝ)) := (standard []).inUnit .inch
    let instruction : Instruction ℝ := tenAlongX ((1 : ℤ) : ℝ)
    let multiplied := instruction.remeasure fun value => value * inchScale
    let inches := (machine.performAll .recorder [.obey instruction]).2
    let millimeters :=
      ((machine.inUnit .millimeter).performAll .recorder [.obey multiplied]).2
    machine.program.unit = .inch ∧ instruction.StaysIn .inch ∧
    inches.program.position.x = 10 / 25.4 ∧ millimeters.program.position.x = 254 ∧
    inches.program.position ≠ millimeters.program.position := by
  intro machine instruction multiplied inches millimeters
  have hmodes : machine.program.withModes instruction = { machine.program with mode := .feed } :=
    withModes_tenAlongX machine.program rfl
  have hinches : inches.program.position.x = 10 / 25.4 := by
    have hposition := obey_position .recorder machine instruction
    rw [hmodes] at hposition
    exact congrArg PerAxis.x hposition
  have hmultiplied : (machine.inUnit .millimeter).program.withModes multiplied =
      { machine.program with mode := .feed }.inUnit .millimeter :=
    (ProgramState.withModes_remeasure _ _ _ _).trans
      (congrArg (ProgramState.inUnit · .millimeter) hmodes)
  have hmillimeters : millimeters.program.position.x = 254 := by
    have hvalue : multiplied.number? 'X' = some (10 * inchScale) :=
      Instruction.remeasure_number? _ _ (by decide)
    have hposition := obey_position .recorder (machine.inUnit .millimeter) multiplied
    rw [hmultiplied] at hposition
    refine (congrArg PerAxis.x hposition).trans ?_
    change ProgramState.targetOn _ multiplied .x = _
    rw [ProgramState.targetOn, Axis.letter, hvalue]
    change (10 * 25.4 : ℝ) = 254
    norm_num
  refine ⟨rfl, staysIn_tenAlongX .inch, hinches, hmillimeters, fun hsame => ?_⟩
  rw [hsame, hmillimeters] at hinches
  norm_num at hinches

end Machine

end Toolpath
