import Toolpath.Program.State

/-!
# What modal settings and rates leave alone

The settings of an instruction change neither the commanded position nor a rate, and its rate
changes nothing but a rate.
-/

namespace Toolpath

namespace ProgramState

variable {α : Type}

/-- A modal setting leaves the position and the rates as they are. -/
theorem put_eq (state : ProgramState α) (setting : ModalSetting) :
    (state.put setting).position = state.position ∧
      (state.put setting).feedRate = state.feedRate ∧
      (state.put setting).seekRate = state.seekRate := by
  cases setting <;> exact ⟨rfl, rfl, rfl⟩

/-- Modal settings one after the other leave the position and the rates as they are. -/
theorem foldl_put_eq (settings : List ModalSetting) (state : ProgramState α) :
    (settings.foldl put state).position = state.position ∧
      (settings.foldl put state).feedRate = state.feedRate ∧
      (settings.foldl put state).seekRate = state.seekRate := by
  induction settings generalizing state with
  | nil => exact ⟨rfl, rfl, rfl⟩
  | cons setting rest ih =>
    obtain ⟨hposition, hfeed, hseek⟩ := ih (state.put setting)
    obtain ⟨hput, hputFeed, hputSeek⟩ := put_eq state setting
    exact ⟨hposition.trans hput, hfeed.trans hputFeed, hseek.trans hputSeek⟩

variable [Scalar α]

/-- The modal settings of an instruction leave the position as it is. -/
theorem withModes_position (state : ProgramState α) (instruction : Instruction α) :
    (state.withModes instruction).position = state.position := (foldl_put_eq _ state).1

/-- The rate of an instruction is set without touching anything else. -/
theorem withRate_eq (state : ProgramState α) (instruction : Instruction α) :
    ∃ feedRate seekRate, state.withRate instruction = { state with feedRate, seekRate } := by
  unfold withRate setRate
  cases instruction.number? 'F' with
  | none => exact ⟨state.feedRate, state.seekRate, rfl⟩
  | some value =>
    dsimp only
    split
    · exact ⟨state.feedRate, _, rfl⟩
    · exact ⟨_, state.seekRate, rfl⟩

end ProgramState

end Toolpath
