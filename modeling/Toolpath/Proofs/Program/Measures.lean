import Toolpath.Proofs.Program.Absolute

/-!
# Instructions in other measures

The lengths and rates of an instruction can be given in another unit: a function is applied to each
of them, and the words that select a unit are left out. In millimeters an instruction then says what
it says in its own unit, when the function takes values of that unit to millimeters.
-/

namespace Toolpath

variable {α : Type}

/-- Letters of the words that give a coordinate, an offset of a center or a rate. -/
def measureLetters : List Char :=
  Axis.all.map Axis.letter ++ Axis.all.map Axis.centerLetter ++ ['F']

/-- What holds of these letters holds of those of each axis and of the rate. -/
theorem forall_mem_measureLetters {motive : Char → Prop} :
    (∀ letter ∈ measureLetters, motive letter) ↔
      (∀ axis : Axis, motive axis.letter) ∧ (∀ axis : Axis, motive axis.centerLetter) ∧
        motive 'F' := by
  rw [measureLetters, List.forall_mem_append, List.forall_mem_append, List.forall_mem_map,
    List.forall_mem_map, List.forall_mem_singleton, and_assoc]
  simp only [Axis.mem_all, forall_const]

/-- Letters of lengths and rates are capitals. -/
theorem toUpper_of_mem_measureLetters :
    ∀ letter ∈ measureLetters, letter.toUpper = letter :=
  forall_mem_measureLetters.mpr
    ⟨fun axis => by cases axis <;> decide, fun axis => by cases axis <;> decide, by decide⟩

namespace Word

/-- The word with its number changed, if that is a length or a rate. -/
def remeasure (change : α → α) (word : Word α) : Word α :=
  if word.letter ∈ measureLetters then { word with value := change word.value } else word

/-- A word keeps its letter. -/
theorem remeasure_letter (change : α → α) (word : Word α) :
    (word.remeasure change).letter = word.letter := by
  unfold remeasure
  split <;> rfl

variable [Scalar α]

/-- The modal setting that a word makes, if it makes one. -/
def setting? (word : Word α) : Option ModalSetting :=
  if word.letter == 'G' then ModalSetting.ofNumber? word.value else none

/-- The word selects a unit of lengths. -/
def selectsUnit (word : Word α) : Bool := (word.setting?.bind ModalSetting.unit?).isSome

/-- Words that make settings have no measure. -/
theorem remeasure_setting? (change : α → α) (word : Word α) :
    (word.remeasure change).setting? = word.setting? := by
  by_cases hmodal : word.letter = 'G'
  · rw [remeasure, if_neg (by rw [hmodal]; decide)]
  · rw [setting?, setting?, remeasure_letter, if_neg (by simpa using hmodal),
      if_neg (by simpa using hmodal)]

end Word

namespace Instruction

variable [Scalar α]

/-- The settings of an instruction are those of its words. -/
theorem settings_eq (instruction : Instruction α) :
    instruction.settings = instruction.words.filterMap Word.setting? := by
  rw [settings, numbers, List.filterMap_map, List.filterMap_filter]
  rfl

/-- The instruction stays in a unit: the last unit that it selects, if any, is that one. -/
def StaysIn (unit : LengthUnit) (instruction : Instruction α) : Prop :=
  ∀ selected, ModalSetting.last? ModalSetting.unit? instruction.settings = some selected →
    selected = unit

/-- The instruction in another measure: its lengths and rates are changed, and it selects no
unit. -/
def remeasure (change : α → α) (instruction : Instruction α) : Instruction α :=
  ⟨(instruction.words.filter fun word => !word.selectsUnit).map (Word.remeasure change), by
    rw [List.length_map]
    exact Nat.le_trans (List.length_filter_le _ _) instruction.length_le⟩

/-- The settings are the same but for those of the unit. -/
theorem remeasure_settings (change : α → α) (instruction : Instruction α) :
    (instruction.remeasure change).settings =
      instruction.settings.filter fun setting => setting.unit?.isNone := by
  have hsetting : (Word.setting? ∘ Word.remeasure change : Word α → _) = Word.setting? :=
    funext (Word.remeasure_setting? change)
  rw [settings_eq, settings_eq, remeasure, List.filterMap_map, hsetting, List.filterMap_filter,
    List.filter_filterMap]
  congr 1
  funext word
  rw [Word.selectsUnit]
  cases word.setting? with
  | none => rfl
  | some setting => cases setting <;> rfl

/-- The numbers of lengths and of rates are changed. -/
theorem remeasure_numbers (change : α → α) (instruction : Instruction α) {letter : Char}
    (h : letter.toUpper ∈ measureLetters) :
    (instruction.remeasure change).numbers letter = (instruction.numbers letter).map change := by
  have hletter : (fun word : Word α => word.letter == letter.toUpper) ∘ Word.remeasure change =
      fun word => word.letter == letter.toUpper := by
    funext word
    rw [Function.comp_apply, Word.remeasure_letter]
  -- words that select a unit are left out, but none of them has a measure
  have hkept : ∀ word ∈ instruction.words,
      ((word.letter == letter.toUpper) && !word.selectsUnit) = (word.letter == letter.toUpper) := by
    intro word _
    by_cases hmeasure : word.letter = letter.toUpper
    · have hmodal : word.letter ≠ 'G' := by
        intro hG
        rw [← hmeasure, hG] at h
        exact absurd h (by decide)
      rw [Word.selectsUnit, Word.setting?, if_neg (by simpa using hmodal)]
      exact Bool.and_true _
    · rw [beq_false_of_ne hmeasure, Bool.false_and]
  rw [numbers, numbers, remeasure, List.filter_map, hletter, List.filter_filter,
    List.filter_congr hkept, List.map_map, List.map_map]
  refine List.map_congr_left fun word hword => ?_
  have hmem : word.letter ∈ measureLetters := by
    rw [eq_of_beq (List.mem_filter.mp hword).2]
    exact h
  rw [Function.comp_apply, Word.remeasure, if_pos hmem]
  rfl

/-- A length or a rate is found with its number changed. -/
theorem remeasure_number? (change : α → α) (instruction : Instruction α) {letter : Char}
    (h : letter.toUpper ∈ measureLetters) :
    (instruction.remeasure change).number? letter = (instruction.number? letter).map change := by
  rw [number?_eq_head?, number?_eq_head?, remeasure_numbers change instruction h, List.head?_map]

/-- The instruction in millimeters, if its numbers are given in a unit. -/
def metric (unit : LengthUnit) (instruction : Instruction α) : Instruction α :=
  instruction.remeasure unit.inMillimeters

end Instruction

namespace ProgramState

/-- The same with another unit of lengths. -/
def inUnit (state : ProgramState α) (unit : LengthUnit) : ProgramState α := { state with unit }

/-- Settings of other groups than the unit do the same in another unit. -/
theorem foldl_put_inUnit (settings : List ModalSetting) (state : ProgramState α)
    (unit : LengthUnit) :
    (settings.filter fun setting => setting.unit?.isNone).foldl put (state.inUnit unit) =
      (settings.foldl put state).inUnit unit := by
  induction settings generalizing state with
  | nil => rfl
  | cons setting rest ih =>
    have hrest := ih (state.put setting)
    cases setting <;> exact hrest

/-- A rate is set in the same way in another unit. -/
theorem setRate_inUnit (state : ProgramState α) (unit : LengthUnit) (rate : α) :
    (state.inUnit unit).setRate rate = (state.setRate rate).inUnit unit := by
  rcases state with ⟨position, mode, own, distance, plane, feedRate, seekRate⟩
  cases mode <;> rfl

variable [Scalar α]

/-- An instruction that stays in the unit in force leaves it in force. -/
theorem withModes_unit {state : ProgramState α} {instruction : Instruction α}
    (h : instruction.StaysIn state.unit) : (state.withModes instruction).unit = state.unit := by
  have hfold : state.withModes instruction = instruction.settings.foldl put state := rfl
  rw [hfold, foldl_put]
  cases hlast : ModalSetting.last? ModalSetting.unit? instruction.settings with
  | none => rfl
  | some selected => exact h selected hlast

/-- An instruction in another measure puts in force what the instruction does, but for the unit. -/
theorem withModes_remeasure (state : ProgramState α) (unit : LengthUnit) (change : α → α)
    (instruction : Instruction α) :
    (state.inUnit unit).withModes (instruction.remeasure change) =
      (state.withModes instruction).inUnit unit := by
  have hfold : (state.inUnit unit).withModes (instruction.remeasure change) =
      (instruction.remeasure change).settings.foldl put (state.inUnit unit) := rfl
  rw [hfold, Instruction.remeasure_settings, foldl_put_inUnit]
  rfl

/-- In its own unit an instruction leads where it leads in millimeters. -/
theorem target_metric (state : ProgramState α) (instruction : Instruction α) :
    (state.inUnit .millimeter).target (instruction.metric state.unit) =
      state.target instruction := by
  refine PerAxis.ext_get fun axis => ?_
  have hletter : axis.letter.toUpper ∈ measureLetters := by cases axis <;> decide
  rw [target, target, PerAxis.get_ofFn, PerAxis.get_ofFn, targetOn, targetOn, Instruction.metric,
    Instruction.remeasure_number? _ _ hletter]
  cases instruction.number? axis.letter <;> rfl

/-- In its own unit an instruction has the offset of the center that it has in millimeters. -/
theorem centerOffset_metric (state : ProgramState α) (instruction : Instruction α) :
    (state.inUnit .millimeter).centerOffset (instruction.metric state.unit) =
      state.centerOffset instruction := by
  refine PerAxis.ext_get fun axis => ?_
  have hletter : axis.centerLetter.toUpper ∈ measureLetters := by cases axis <;> decide
  rw [centerOffset, centerOffset, PerAxis.get_ofFn, PerAxis.get_ofFn, centerOffsetOn,
    centerOffsetOn, Instruction.metric, Instruction.remeasure_number? _ _ hletter]
  cases instruction.number? axis.centerLetter <;> rfl

/-- In its own unit an instruction sets the rate that it sets in millimeters. -/
theorem withRate_metric (state : ProgramState α) (instruction : Instruction α) :
    (state.inUnit .millimeter).withRate (instruction.metric state.unit) =
      (state.withRate instruction).inUnit .millimeter := by
  have hletter : ('F' : Char).toUpper ∈ measureLetters := by decide
  rw [withRate, withRate, Instruction.metric, Instruction.remeasure_number? _ _ hletter]
  cases instruction.number? 'F' with
  | none => rfl
  | some value => exact setRate_inUnit state .millimeter _

end ProgramState

end Toolpath
