import Toolpath.Binary64.Arithmetic
import Toolpath.Planner.Journal
import Toolpath.Proofs.Configuration.Usable
import Toolpath.Proofs.Machine.Plan
import Toolpath.Proofs.Program.Absolute

/-!
# Programs in absolute millimeters

A program may switch between inches and millimeters and between absolute and relative coordinates as
it likes. Instruction by instruction it can be said in absolute millimeters, and a machine then does
the same: it replies the same, asks the same of the planner and ends in the same state, but for the
unit and for what coordinates count from.
-/

namespace Toolpath

variable {α σ : Type} [Scalar α]

namespace ProgramState

/-- A move leads through the same waypoints in absolute millimeters. -/
theorem course_inAbsolute (program : ProgramState α) (settings : Settings α)
    (target offset : PerAxis α) :
    program.inAbsolute.course settings target offset = program.course settings target offset := rfl

/-- A program in absolute millimeters, instruction by instruction. Each instruction is said as it is
meant in the state that the instructions before it lead to. -/
def absoluteAll (program : ProgramState α) : List (Instruction α) → List (Instruction α)
  | [] => []
  | instruction :: rest =>
    program.absolute instruction :: (program.obeyed instruction).absoluteAll rest

/-- The first instructions in absolute millimeters are those of the first instructions. -/
theorem absoluteAll_take (program : ProgramState α) (instructions : List (Instruction α))
    (count : Nat) :
    (program.absoluteAll instructions).take count =
      program.absoluteAll (instructions.take count) := by
  induction instructions generalizing program count with
  | nil => rw [absoluteAll, List.take_nil, absoluteAll]
  | cons instruction rest ih =>
    cases count with
    | zero => rfl
    | succ count => rw [absoluteAll, List.take_succ_cons, ih, List.take_succ_cons, absoluteAll]

/-- An instruction in absolute millimeters makes of the program what the instruction does, but for
absolute millimeters. -/
theorem obeyed_absolute (hreads : ReadsAbsolute α) {program other : ProgramState α}
    (h : other.inAbsolute = program.inAbsolute) (instruction : Instruction α) :
    other.obeyed (program.absolute instruction) = (program.obeyed instruction).inAbsolute := by
  simp only [obeyed]
  rw [withModes_absolute hreads h, withRate_absolute, target_absolute]
  rfl

end ProgramState

/-- The numbers ninety and twenty-one are read as absolute millimeters. -/
theorem Binary64.readsAbsolute : ProgramState.ReadsAbsolute Float := ⟨by decide, by decide⟩

namespace Machine

/-- The same machine with its program in absolute millimeters. -/
def inAbsolute (machine : Machine α σ) : Machine α σ :=
  { machine with program := machine.program.inAbsolute }

omit [Scalar α] in
/-- Machines that are the same in absolute millimeters differ in their programs alone, and there
in nothing but the unit and what coordinates count from. -/
theorem inAbsolute_eq_iff (machine other : Machine α σ) :
    other.inAbsolute = machine.inAbsolute ↔
      other.program.inAbsolute = machine.program.inAbsolute ∧
        other.settings = machine.settings ∧ other.dispatcher = machine.dispatcher := by
  rw [inAbsolute, inAbsolute, Machine.mk.injEq]

/-- An instruction in absolute millimeters leads through the same waypoints. -/
theorem course_absolute (hreads : ProgramState.ReadsAbsolute α) {machine other : Machine α σ}
    (h : other.inAbsolute = machine.inAbsolute) (instruction : Instruction α) :
    other.course (.obey (machine.program.absolute instruction)) =
      machine.course (.obey instruction) := by
  obtain ⟨hprogram, hsettings, -⟩ := (inAbsolute_eq_iff machine other).mp h
  simp only [course]
  rw [ProgramState.withModes_absolute hreads hprogram, ProgramState.withRate_absolute,
    ProgramState.target_absolute, ProgramState.centerOffset_absolute,
    ProgramState.course_inAbsolute, hsettings]

/-- A machine that was in the same state, but for the unit and for what coordinates count from,
carries out an instruction in absolute millimeters as the instruction is carried out. -/
theorem obey_absolute (hreads : ProgramState.ReadsAbsolute α) (downstream : Downstream α σ)
    {machine other : Machine α σ} (h : other.inAbsolute = machine.inAbsolute)
    (instruction : Instruction α) :
    other.obey downstream (machine.program.absolute instruction) =
      ((machine.obey downstream instruction).1,
        (machine.obey downstream instruction).2.inAbsolute) := by
  obtain ⟨hprogram, hsettings, hdispatcher⟩ := (inAbsolute_eq_iff machine other).mp h
  rw [obey_of_course_eq downstream hdispatcher (course_absolute hreads h instruction),
    ProgramState.obeyed_absolute hreads hprogram instruction, hsettings]
  simp only [inAbsolute]
  rw [obey_program, obey_eq_deliver]
  rfl

/-- The first instruction is carried out, and then the others. -/
theorem performAll_obey_cons (downstream : Downstream α σ) (machine : Machine α σ)
    (instruction : Instruction α) (rest : List (Instruction α)) :
    machine.performAll downstream ((instruction :: rest).map .obey) =
      let outcome := machine.obey downstream instruction
      let others := outcome.2.performAll downstream (rest.map .obey)
      (.moved outcome.1 :: others.1, others.2) := rfl

/-- A machine in absolute millimeters carries out a program in absolute millimeters as the program
is carried out. -/
theorem performAll_absoluteAll (hreads : ProgramState.ReadsAbsolute α)
    (downstream : Downstream α σ) (machine : Machine α σ) (instructions : List (Instruction α)) :
    machine.inAbsolute.performAll downstream
        ((machine.program.absoluteAll instructions).map .obey) =
      ((machine.performAll downstream (instructions.map .obey)).1,
        (machine.performAll downstream (instructions.map .obey)).2.inAbsolute) := by
  induction instructions generalizing machine with
  | nil => rfl
  | cons instruction rest ih =>
    have hsame : machine.inAbsolute.inAbsolute = machine.inAbsolute := rfl
    have hstep := obey_absolute hreads downstream hsame instruction
    have hrest := ih (machine.obey downstream instruction).2
    rw [obey_program] at hrest
    rw [ProgramState.absoluteAll, performAll_obey_cons, performAll_obey_cons, hstep]
    dsimp only
    rw [hrest]

/-- Every program has an equivalent one in absolute millimeters. Over any numbers that read ninety
and twenty-one as absolute millimeters, whatever state a machine is in and whatever the planner
says, an instruction in absolute millimeters says by its words what the instruction means. It is
replied to as the instruction is, asks the same of the planner, event for event, and leaves the same
state in absolute millimeters. After every instruction of a program this holds of the program, said
in absolute millimeters instruction by instruction. -/
theorem performAll_inAbsolute (hreads : ProgramState.ReadsAbsolute α) (downstream : Downstream α σ)
    (machine : Machine α (σ × Journal α)) :
    (∀ instruction : Instruction α,
      let said := machine.program.absolute instruction
      let outcome := machine.obey downstream.journaled instruction
      machine.program.SaysAbsolute instruction said ∧
      machine.obey downstream.journaled said = (outcome.1, outcome.2.inAbsolute)) ∧
    ∀ (first : Instruction α) (rest : List (Instruction α)) (count : Nat),
      let translated := machine.program.absoluteAll (first :: rest)
      let run := machine.performAll downstream.journaled
        (((first :: rest).take (count + 1)).map .obey)
      machine.performAll downstream.journaled ((translated.take (count + 1)).map .obey) =
        (run.1, run.2.inAbsolute) := by
  have hsame : machine.inAbsolute = machine.inAbsolute := rfl
  have hobey := obey_absolute hreads downstream.journaled hsame
  refine ⟨fun instruction => ⟨machine.program.absolute_saysAbsolute instruction, hobey instruction⟩,
    fun first rest count => ?_⟩
  -- the first instruction brings the machine into absolute millimeters, the others keep it there
  have hrest := performAll_absoluteAll hreads downstream.journaled
    (machine.obey downstream.journaled first).2 (rest.take count)
  rw [obey_program] at hrest
  dsimp only
  rw [ProgramState.absoluteAll_take, List.take_succ_cons, ProgramState.absoluteAll,
    performAll_obey_cons, performAll_obey_cons, hobey first]
  dsimp only
  rw [hrest]

/-- A step in inches along the first axis, counted from the position. -/
def inchStep : Instruction Float := .ofWords [⟨'G', 20.0⟩, ⟨'G', 91.0⟩, ⟨'X', 50.8⟩]

/-- On the standard machine, which is at the origin, the step is said with all coordinates and with
an offset of zero, and is carried out in the same way. -/
theorem performAll_inAbsolute_inchStep :
    let machine : Machine Float (List (Block Float) × Journal Float) := standard ([], [])
    let said := machine.program.absolute inchStep
    let outcome := machine.obey Downstream.recorder.journaled inchStep
    said.number? 'X' = some (50.8 / 25.4) ∧ said.number? 'Y' = some 0.0 ∧
    said.number? 'Z' = some 0.0 ∧ said.number? 'I' = some 0.0 ∧ said.number? 'F' = none ∧
    machine.obey Downstream.recorder.journaled said = (outcome.1, outcome.2.inAbsolute) := by
  intro machine said outcome
  obtain ⟨hobey, -⟩ := performAll_inAbsolute Binary64.readsAbsolute Downstream.recorder machine
  obtain ⟨hwords, hsame⟩ := hobey inchStep
  have hx : said.number? 'X' = some (0.0 + 50.8 / 25.4) := hwords.distance .x 50.8 rfl rfl
  have hsum : (0.0 : Float) + 50.8 / 25.4 = 50.8 / 25.4 := by decide
  refine ⟨hx.trans (congrArg some hsum), hwords.position .y rfl, hwords.position .z rfl,
    hwords.center .x, hwords.rate, hsame⟩

end Machine

end Toolpath
