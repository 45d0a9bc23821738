import Toolpath.Binary64.Arithmetic
import Toolpath.Proofs.Configuration.Usable
import Toolpath.Proofs.Machine.Plan
import Toolpath.Proofs.Program.Meaning

/-!
# Instructions with the same meaning

A machine carries out what the words of an instruction mean together, and nothing else of it. Its
modal words come first, wherever they stand, and govern all other words.
-/

namespace Toolpath

variable {α σ : Type} [Scalar α]

namespace ProgramState

variable {state : ProgramState α} {first second : Instruction α}

/-- Instructions with the same numbers lead to the same point. -/
theorem target_congr
    (h : ∀ letter ∈ measureLetters, first.number? letter = second.number? letter) :
    state.target first = state.target second := by
  refine PerAxis.ext_get fun axis => ?_
  have hletter : axis.letter ∈ measureLetters := by cases axis <;> decide
  rw [target, target, PerAxis.get_ofFn, PerAxis.get_ofFn, targetOn, targetOn, h _ hletter]

/-- They have the same offset of the center. -/
theorem centerOffset_congr
    (h : ∀ letter ∈ measureLetters, first.number? letter = second.number? letter) :
    state.centerOffset first = state.centerOffset second := by
  refine PerAxis.ext_get fun axis => ?_
  have hletter : axis.centerLetter ∈ measureLetters := by cases axis <;> decide
  rw [centerOffset, centerOffset, PerAxis.get_ofFn, PerAxis.get_ofFn, centerOffsetOn,
    centerOffsetOn, h _ hletter]

/-- They set the same rate. -/
theorem withRate_congr
    (h : ∀ letter ∈ measureLetters, first.number? letter = second.number? letter) :
    state.withRate first = state.withRate second := by
  rw [withRate, withRate, h 'F' (by decide)]

/-- Instructions with the same last setting in each group put the same in force. -/
theorem withModes_congr
    (h : ∀ group,
      ModalSetting.lastOf group first.settings = ModalSetting.lastOf group second.settings) :
    state.withModes first = state.withModes second :=
  foldl_put_congr h state

/-- The modal words of an instruction leave the last setting of each group in force. -/
theorem withModes_inForce (state : ProgramState α) (instruction : Instruction α)
    (group : ModalGroup) :
    (state.withModes instruction).inForce group =
      (ModalSetting.lastOf group instruction.settings).getD (state.inForce group) :=
  foldl_put_inForce instruction.settings state group

/-- What they put in force stays so behind the instruction. -/
theorem obeyed_inForce (state : ProgramState α) (instruction : Instruction α) (group : ModalGroup) :
    (state.obeyed instruction).inForce group = (state.withModes instruction).inForce group := by
  obtain ⟨feedRate, seekRate, hrate⟩ := (state.withModes instruction).withRate_eq instruction
  rw [obeyed, hrate]
  cases group <;> rfl

/-- An instruction without modal words puts nothing in force. -/
theorem withModes_withoutModes (state : ProgramState α) (instruction : Instruction α) :
    state.withModes instruction.withoutModes = state := by
  have hfold : state.withModes instruction.withoutModes =
      instruction.withoutModes.settings.foldl put state := rfl
  rw [hfold, Instruction.withoutModes_settings, List.foldl_nil]

end ProgramState

namespace Machine

variable {machine : Machine α σ} {first second : Instruction α}

/-- What is in force after its own modal words and the numbers of an instruction are all that a
machine carries out. -/
theorem obey_congr (downstream : Downstream α σ) {program other : ProgramState α}
    (hmodes : program.withModes first = other.withModes second)
    (hnumbers : ∀ letter ∈ measureLetters, first.number? letter = second.number? letter) :
    { machine with program }.obey downstream first =
      { machine with program := other }.obey downstream second := by
  simp only [obey, hmodes, ProgramState.target_congr hnumbers,
    ProgramState.centerOffset_congr hnumbers, ProgramState.withRate_congr hnumbers]

/-- Instructions with the same meaning are carried out alike. -/
theorem obey_of_meaning (downstream : Downstream α σ) (machine : Machine α σ)
    (h : first.meaning = second.meaning) :
    machine.obey downstream first = machine.obey downstream second := by
  have hsettings (group : ModalGroup) : ModalSetting.lastOf group first.settings =
      ModalSetting.lastOf group second.settings := by
    rw [← Instruction.meaning_setting, ← Instruction.meaning_setting, h]
  have hnumbers : ∀ letter ∈ measureLetters, first.number? letter = second.number? letter := by
    intro letter hletter
    rw [← Instruction.meaning_number first hletter, ← Instruction.meaning_number second hletter, h]
  exact obey_congr downstream (ProgramState.withModes_congr hsettings) hnumbers

/-- An instruction is what its last setting of each modal group and its first number of each letter
say. Whatever state a machine is in and whatever the planner says, two instructions that agree in
these are replied to alike, ask the same of the planner, event for event, and leave the same state.
So a word can be left out that stands for nothing, makes no setting, is overruled by a later word of
its group or repeats an earlier letter, and neighbours can change places that have different letters
or make no settings of one group. The modal words of an instruction govern all of its other words:
these are carried out as if the last setting of each group had been in force before, and it stays
in force behind them. -/
theorem obey_meaning (downstream : Downstream α σ) (machine : Machine α (σ × Journal α)) :
    (∀ first second : Instruction α,
      (∀ group,
        ModalSetting.lastOf group first.settings = ModalSetting.lastOf group second.settings) →
      (∀ letter ∈ measureLetters, first.number? letter = second.number? letter) →
      machine.obey downstream.journaled first = machine.obey downstream.journaled second) ∧
    (∀ (first second : Instruction α) (front : List (Word α)) (word : Word α)
      (rest : List (Word α)),
      first.words = front ++ word :: rest → second.words = front ++ rest → word.Idle front rest →
      machine.obey downstream.journaled first = machine.obey downstream.journaled second) ∧
    (∀ (first second : Instruction α) (front : List (Word α)) (one other : Word α)
      (rest : List (Word α)),
      first.words = front ++ one :: other :: rest → second.words = front ++ other :: one :: rest →
      one.Apart other →
      machine.obey downstream.journaled first = machine.obey downstream.journaled second) ∧
    ∀ instruction : Instruction α,
      let governed := machine.program.withModes instruction
      let outcome := machine.obey downstream.journaled instruction
      (∀ group, governed.inForce group =
        (ModalSetting.lastOf group instruction.settings).getD (machine.program.inForce group)) ∧
      (∀ group, outcome.2.program.inForce group = governed.inForce group) ∧
      outcome = { machine with program := governed }.obey downstream.journaled
        instruction.withoutModes := by
  refine ⟨fun first second hsettings hnumbers => ?_,
    fun first second front word rest hfirst hsecond hidle => ?_,
    fun first second front one other rest hfirst hsecond hapart => ?_, fun instruction => ?_⟩
  · exact obey_of_meaning _ machine (Instruction.meaning_eq hsettings hnumbers)
  · refine obey_of_meaning _ machine ?_
    rw [Instruction.meaning, Instruction.meaning, hfirst, hsecond, Meaning.ofWords_of_idle hidle]
  · refine obey_of_meaning _ machine ?_
    rw [Instruction.meaning, Instruction.meaning, hfirst, hsecond,
      Meaning.ofWords_of_apart hapart]
  · have hmodes : machine.program.withModes instruction =
        (machine.program.withModes instruction).withModes instruction.withoutModes :=
      (ProgramState.withModes_withoutModes _ instruction).symm
    refine ⟨machine.program.withModes_inForce instruction, fun group => ?_,
      obey_congr downstream.journaled hmodes fun letter hletter =>
        (instruction.withoutModes_number? hletter).symm⟩
    rw [obey_program]
    exact machine.program.obeyed_inForce instruction group

/-- A line with words that are overruled, repeated, unknown or no numbers means what a line with
four words means, in whatever order those stand. -/
theorem obey_meaning_line :
    let machine : Machine Float (List (Block Float) × Journal Float) := standard ([], [])
    let downstream : Downstream Float (List (Block Float) × Journal Float) :=
      Downstream.recorder.journaled
    let modal (number : Float) : Word Float := ⟨'G', number⟩
    let line : Instruction Float := .ofWords [modal 91.0, ⟨'x', 1.0⟩, ⟨'N', 5.0⟩, modal (0.0 / 0.0),
      modal 38.2, ⟨'y', 2.0⟩, ⟨'X', 7.0⟩, modal 90.0, modal 1.0]
    let brief : Instruction Float := .ofWords [⟨'Y', 2.0⟩, modal 1.0, modal 90.0, ⟨'X', 1.0⟩]
    let swapped : Instruction Float := .ofWords [⟨'Y', 2.0⟩, modal 90.0, modal 1.0, ⟨'X', 1.0⟩]
    let overruled : Instruction Float :=
      .ofWords [modal 91.0, ⟨'Y', 2.0⟩, modal 90.0, modal 1.0, ⟨'X', 1.0⟩]
    machine.obey downstream line = machine.obey downstream brief ∧
    machine.obey downstream overruled = machine.obey downstream swapped ∧
    machine.obey downstream swapped = machine.obey downstream brief := by
  intro machine downstream modal line brief swapped overruled
  have habsolute : (modal 90.0).setting? = some (.distance .absolute) := by decide +kernel
  have hrelative : (modal 91.0).setting? = some (.distance .relative) := by decide +kernel
  have hfeed : (modal 1.0).setting? = some (.move .feed) := by decide +kernel
  have hsettings : ∀ group, ModalSetting.lastOf group line.settings =
      ModalSetting.lastOf group brief.settings := by
    intro group
    cases group <;> decide +kernel
  have hnumbers : ∀ letter ∈ measureLetters, line.number? letter = brief.number? letter :=
    forall_mem_measureLetters.mpr ⟨fun axis => by cases axis <;> decide +kernel,
      fun axis => by cases axis <;> decide +kernel, by decide +kernel⟩
  obtain ⟨hmeaning, hdrop, hswap, -⟩ := obey_meaning Downstream.recorder machine
  have hidle : (modal 91.0).Idle [] [⟨'Y', 2.0⟩, modal 90.0, modal 1.0, ⟨'X', 1.0⟩] :=
    .overruled (modal 90.0) _ _ (List.mem_cons_of_mem _ List.mem_cons_self) habsolute hrelative rfl
  have hapart : (modal 90.0).Apart (modal 1.0) := by
    refine .groups rfl rfl fun first second hfirst hsecond => ?_
    rw [habsolute] at hfirst
    rw [hfeed] at hsecond
    cases hfirst
    cases hsecond
    decide
  exact ⟨hmeaning line brief hsettings hnumbers, hdrop overruled swapped [] _ _ rfl rfl hidle,
    hswap swapped brief [⟨'Y', 2.0⟩] _ _ [⟨'X', 1.0⟩] rfl rfl hapart⟩

end Machine

end Toolpath
