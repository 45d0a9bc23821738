import Toolpath.Proofs.Program.Groups
import Toolpath.Proofs.Program.Modes
import Toolpath.Proofs.Program.Words

/-!
# Instructions in absolute millimeters

Whatever units and distances an instruction is given in, another one in absolute millimeters says
the same: it names the point that the instruction leads to, the offset of the center and the rate,
each taken to millimeters once, and it repeats what the instruction says about the way of moving and
the plane. What it makes of a program is the same but for the unit and for what coordinates count
from.
-/

namespace Toolpath

/-- Where the last element with a result is found, so is the last result. -/
theorem getLast?_filter_bind {β γ : Type} (f : β → Option γ) (items : List β) :
    ((items.filter fun item => (f item).isSome).getLast?).bind f =
      (items.filterMap f).getLast? := by
  rw [List.getLast?_filter, List.getLast?_filterMap]
  induction items.reverse with
  | nil => rfl
  | cons item rest ih =>
    rw [List.find?_cons, List.findSome?_cons]
    cases h : f item with
    | none => exact ih
    | some value => exact h

variable {α : Type} [Scalar α]

namespace Instruction

/-- Modal settings of an instruction, in order. -/
def settings (instruction : Instruction α) : List ModalSetting :=
  (instruction.numbers 'G').filterMap ModalSetting.ofNumber?

/-- The last number of an instruction that makes a setting of a group. -/
def lastNumber? {β : Type} (instruction : Instruction α) (group : ModalSetting → Option β) :
    Option α :=
  ((instruction.numbers 'G').filter fun number =>
    ((ModalSetting.ofNumber? number).bind group).isSome).getLast?

/-- The last number of a group makes the last setting of the group. -/
theorem lastNumber?_settings {β : Type} {group : ModalSetting → Option β}
    {setting : β → ModalSetting}
    (hgroup : ∀ made value, group made = some value ↔ made = setting value)
    (instruction : Instruction α) :
    (instruction.lastNumber? group).toList.filterMap ModalSetting.ofNumber? =
      ((ModalSetting.last? group instruction.settings).map setting).toList := by
  have hlast := getLast?_filter_bind (fun number : α => (ModalSetting.ofNumber? number).bind group)
    (instruction.numbers 'G')
  rw [← List.filterMap_filterMap] at hlast
  change (instruction.lastNumber? group).bind _ =
    ModalSetting.last? group instruction.settings at hlast
  cases hnumber : instruction.lastNumber? group with
  | none =>
    rw [hnumber] at hlast
    rw [← hlast]
    rfl
  | some number =>
    have hmem := List.mem_of_getLast? hnumber
    have hsome := (List.mem_filter.mp hmem).2
    obtain ⟨value, hvalue⟩ := Option.isSome_iff_exists.mp hsome
    obtain ⟨made, hmade, hof⟩ := Option.bind_eq_some_iff.mp hvalue
    rw [(hgroup made value).mp hof] at hmade
    rw [hnumber, Option.bind_some, hvalue] at hlast
    rw [← hlast, Option.toList_some, List.filterMap_cons_some hmade]
    rfl

end Instruction

namespace ProgramState

/-- The same in absolute millimeters. -/
def inAbsolute (state : ProgramState α) : ProgramState α :=
  { state with unit := .millimeter, distance := .absolute }

omit [Scalar α] in
/-- A rate is set in the same way in absolute millimeters. -/
theorem setRate_inAbsolute (state : ProgramState α) (rate : α) :
    state.inAbsolute.setRate rate = (state.setRate rate).inAbsolute := by
  rcases state with ⟨position, mode, unit, distance, plane, feedRate, seekRate⟩
  cases mode <;> rfl

/-- Modal numbers of an instruction in absolute millimeters. -/
def absoluteNumbers (instruction : Instruction α) : List α :=
  (instruction.lastNumber? ModalSetting.move?).toList ++
    (instruction.lastNumber? ModalSetting.plane?).toList ++ [90.0, 21.0]

/-- Words that name the coordinates of a point. -/
def coordinateWords (point : PerAxis α) : List (Word α) :=
  Axis.all.map fun axis => ⟨axis.letter, point.get axis⟩

/-- Words that name the offset of a center. -/
def centerWords (offset : PerAxis α) : List (Word α) :=
  Axis.all.map fun axis => ⟨axis.centerLetter, offset.get axis⟩

/-- Words of an instruction in absolute millimeters: its modal numbers, the point that it leads to,
the offset of the center, and the rate if it gives one. -/
def absoluteWords (state : ProgramState α) (instruction : Instruction α) : List (Word α) :=
  let resolved := state.withModes instruction
  (absoluteNumbers instruction).map (Word.mk 'G') ++
    coordinateWords (resolved.target instruction) ++
    centerWords (resolved.centerOffset instruction) ++
    ((instruction.number? 'F').map resolved.inMillimeters).toList.map (Word.mk 'F')

/-- An instruction in absolute millimeters, as it is meant in a state of the program. -/
def absolute (state : ProgramState α) (instruction : Instruction α) : Instruction α :=
  .ofWords (state.absoluteWords instruction)

/-- There is room for all words of an instruction in absolute millimeters. -/
theorem absoluteWords_length_le (state : ProgramState α) (instruction : Instruction α) :
    (state.absoluteWords instruction).length ≤ wordLimit := by
  have hmove := Option.length_toList_le (o := instruction.lastNumber? ModalSetting.move?)
  have hplane := Option.length_toList_le (o := instruction.lastNumber? ModalSetting.plane?)
  have hrate := Option.length_toList_le
    (o := (instruction.number? 'F').map (state.withModes instruction).inMillimeters)
  simp only [absoluteWords, absoluteNumbers, coordinateWords, centerWords, List.length_append,
    List.length_map, List.length_cons, List.length_nil, Axis.all, wordLimit]
  omega

section Lookup

variable (state : ProgramState α) (instruction : Instruction α)

/-- The numbers with a letter come from the four parts of the words. -/
theorem absolute_numbers (letter : Char) :
    (state.absolute instruction).numbers letter =
      Instruction.numbersIn ((absoluteNumbers instruction).map (Word.mk 'G')) letter ++
        Instruction.numbersIn
          (coordinateWords ((state.withModes instruction).target instruction)) letter ++
        Instruction.numbersIn
          (centerWords ((state.withModes instruction).centerOffset instruction)) letter ++
        Instruction.numbersIn (((instruction.number? 'F').map
          (state.withModes instruction).inMillimeters).toList.map (Word.mk 'F')) letter := by
  rw [absolute, Instruction.ofWords_numbers (absoluteWords_length_le state instruction),
    absoluteWords, Instruction.numbersIn_append, Instruction.numbersIn_append,
    Instruction.numbersIn_append]

/-- The modal numbers are found as they were put. -/
theorem absolute_modal :
    (state.absolute instruction).numbers 'G' = absoluteNumbers instruction := by
  have hcoordinates : Instruction.numbersIn
      (coordinateWords ((state.withModes instruction).target instruction)) 'G' = [] := rfl
  have hcenter : Instruction.numbersIn
      (centerWords ((state.withModes instruction).centerOffset instruction)) 'G' = [] := rfl
  rw [absolute_numbers, Instruction.numbersIn_of_letter rfl, hcoordinates, hcenter,
    Instruction.numbersIn_of_other_letter (by decide)]
  simp only [List.append_nil]

/-- Each axis has a coordinate, that of the point. -/
theorem absolute_coordinate (axis : Axis) :
    (state.absolute instruction).number? axis.letter =
      some (((state.withModes instruction).target instruction).get axis) := by
  rw [Instruction.number?_eq_head?, absolute_numbers,
    Instruction.numbersIn_of_other_letter (by cases axis <;> decide)]
  cases axis <;> rfl

/-- Each axis has an offset, that of the center. -/
theorem absolute_center (axis : Axis) :
    (state.absolute instruction).number? axis.centerLetter =
      some (((state.withModes instruction).centerOffset instruction).get axis) := by
  rw [Instruction.number?_eq_head?, absolute_numbers,
    Instruction.numbersIn_of_other_letter (by cases axis <;> decide)]
  cases axis <;> rfl

/-- The rate is the one in millimeters, if there is one. -/
theorem absolute_rate :
    (state.absolute instruction).number? 'F' =
      (instruction.number? 'F').map (state.withModes instruction).inMillimeters := by
  rw [Instruction.number?_eq_head?, absolute_numbers,
    Instruction.numbersIn_of_other_letter (by decide), Instruction.numbersIn_of_letter rfl]
  cases instruction.number? 'F' <;> rfl

end Lookup

/-- An instruction says in absolute millimeters, word by word, what another one means in a state of
the program. -/
structure SaysAbsolute (state : ProgramState α) (instruction said : Instruction α) : Prop where
  /-- It repeats the last setting of the way of moving and that of the plane, as far as there are
  any, and selects absolute millimeters. -/
  modal : said.numbers 'G' = (instruction.lastNumber? ModalSetting.move?).toList ++
    (instruction.lastNumber? ModalSetting.plane?).toList ++ [90.0, 21.0]
  /-- Without a coordinate on an axis, the position has it. -/
  position : ∀ axis : Axis, instruction.number? axis.letter = none →
    said.number? axis.letter = some (state.position.get axis)
  /-- A coordinate that counts from the origin is taken to millimeters. -/
  coordinate : ∀ (axis : Axis) value, instruction.number? axis.letter = some value →
    (state.withModes instruction).distance = .absolute →
    said.number? axis.letter = some ((state.withModes instruction).unit.inMillimeters value)
  /-- One that counts from the position is taken to millimeters and added to it. -/
  distance : ∀ (axis : Axis) value, instruction.number? axis.letter = some value →
    (state.withModes instruction).distance = .relative →
    said.number? axis.letter =
      some (state.position.get axis + (state.withModes instruction).unit.inMillimeters value)
  /-- The offset of the center is taken to millimeters, whatever coordinates count from, and is zero
  where there is none. -/
  center : ∀ axis : Axis, said.number? axis.centerLetter =
    some (((instruction.number? axis.centerLetter).map
      (state.withModes instruction).unit.inMillimeters).getD 0.0)
  /-- The rate is taken to millimeters, if there is one. -/
  rate : said.number? 'F' =
    (instruction.number? 'F').map (state.withModes instruction).unit.inMillimeters

/-- An instruction in absolute millimeters says by its words what the instruction means. -/
theorem absolute_saysAbsolute (state : ProgramState α) (instruction : Instruction α) :
    state.SaysAbsolute instruction (state.absolute instruction) := by
  have htarget (axis : Axis) : (state.absolute instruction).number? axis.letter =
      some ((state.withModes instruction).targetOn instruction axis) := by
    rw [absolute_coordinate, target, PerAxis.get_ofFn]
  have hposition := state.withModes_position instruction
  refine ⟨absolute_modal state instruction, fun axis hnone => ?_,
    fun axis value hsome hdistance => ?_, fun axis value hsome hdistance => ?_, fun axis => ?_,
    absolute_rate state instruction⟩
  · rw [htarget, targetOn, hnone, hposition]
  · rw [htarget, targetOn, hsome, hdistance]
    rfl
  · rw [htarget, targetOn, hsome, hdistance, hposition]
    rfl
  · rw [absolute_center, centerOffset, PerAxis.get_ofFn, centerOffsetOn]
    cases instruction.number? axis.centerLetter <;> rfl

/-- The number type reads the two modal numbers of absolute millimeters as such. -/
structure ReadsAbsolute (α : Type) [Scalar α] : Prop where
  /-- Ninety lets coordinates count from the origin. -/
  distance : ModalSetting.ofNumber? (90.0 : α) = some (.distance .absolute)
  /-- Twenty-one selects millimeters. -/
  unit : ModalSetting.ofNumber? (21.0 : α) = some (.unit .millimeter)

variable (hreads : ReadsAbsolute α)

include hreads

/-- The settings of an instruction in absolute millimeters. -/
theorem absolute_settings (state : ProgramState α) (instruction : Instruction α) :
    (state.absolute instruction).settings =
      ((ModalSetting.last? ModalSetting.move? instruction.settings).map .move).toList ++
        ((ModalSetting.last? ModalSetting.plane? instruction.settings).map .plane).toList ++
        [.distance .absolute, .unit .millimeter] := by
  rw [Instruction.settings, absolute_modal, absoluteNumbers, List.filterMap_append,
    List.filterMap_append, Instruction.lastNumber?_settings ModalSetting.move?_eq_some_iff,
    Instruction.lastNumber?_settings ModalSetting.plane?_eq_some_iff,
    List.filterMap_cons_some hreads.distance, List.filterMap_cons_some hreads.unit,
    List.filterMap_nil]

/-- The settings of an instruction in absolute millimeters put in force what those of the
instruction do, but for absolute millimeters. The program may have had any unit and any distances
before. -/
theorem withModes_absolute {state other : ProgramState α} (h : other.inAbsolute = state.inAbsolute)
    (instruction : Instruction α) :
    other.withModes (state.absolute instruction) = (state.withModes instruction).inAbsolute := by
  have hother : other.withModes (state.absolute instruction) =
      (state.absolute instruction).settings.foldl put other := rfl
  have hstate : state.withModes instruction = instruction.settings.foldl put state := rfl
  rw [hother, hstate, absolute_settings hreads, foldl_put instruction.settings]
  cases other
  cases state
  cases h
  cases ModalSetting.last? ModalSetting.move? instruction.settings <;>
    cases ModalSetting.last? ModalSetting.plane? instruction.settings <;> rfl

omit hreads in
/-- An instruction in absolute millimeters leads where the instruction leads. -/
theorem target_absolute (state : ProgramState α) (instruction : Instruction α) :
    (state.withModes instruction).inAbsolute.target (state.absolute instruction) =
      (state.withModes instruction).target instruction := by
  refine PerAxis.ext_get fun axis => ?_
  rw [target, PerAxis.get_ofFn, targetOn, absolute_coordinate]
  rfl

omit hreads in
/-- An instruction in absolute millimeters has the offset that the instruction has. -/
theorem centerOffset_absolute (state : ProgramState α) (instruction : Instruction α) :
    (state.withModes instruction).inAbsolute.centerOffset (state.absolute instruction) =
      (state.withModes instruction).centerOffset instruction := by
  refine PerAxis.ext_get fun axis => ?_
  rw [centerOffset, PerAxis.get_ofFn, centerOffsetOn, absolute_center]
  rfl

omit hreads in
/-- An instruction in absolute millimeters sets the rate that the instruction sets. -/
theorem withRate_absolute (state : ProgramState α) (instruction : Instruction α) :
    (state.withModes instruction).inAbsolute.withRate (state.absolute instruction) =
      ((state.withModes instruction).withRate instruction).inAbsolute := by
  rw [withRate, withRate, absolute_rate]
  cases instruction.number? 'F' with
  | none => rfl
  | some value => exact setRate_inAbsolute _ _

end ProgramState

end Toolpath
