import Toolpath.Program.State

/-!
# Modal groups

Modal settings belong to four groups. Of the settings that an instruction makes in a group the last
one stays in force; without one the group keeps the setting that it had.
-/

namespace Toolpath

namespace ModalSetting

/-- The way of moving that a setting selects, if it is of that group. -/
def move? : ModalSetting → Option MoveMode
  | .move selected => some selected
  | _ => none

/-- The plane that a setting selects, if it is of that group. -/
def plane? : ModalSetting → Option Plane
  | .plane selected => some selected
  | _ => none

/-- The unit that a setting selects, if it is of that group. -/
def unit? : ModalSetting → Option LengthUnit
  | .unit selected => some selected
  | _ => none

/-- What a setting lets coordinates count from, if it is of that group. -/
def distance? : ModalSetting → Option DistanceMode
  | .distance selected => some selected
  | _ => none

/-- The group of the ways of moving holds nothing else. -/
theorem move?_eq_some_iff (setting : ModalSetting) (selected : MoveMode) :
    setting.move? = some selected ↔ setting = .move selected := by
  cases setting <;> simp [move?]

/-- The group of the planes holds nothing else. -/
theorem plane?_eq_some_iff (setting : ModalSetting) (selected : Plane) :
    setting.plane? = some selected ↔ setting = .plane selected := by
  cases setting <;> simp [plane?]

/-- The last of some settings in a group. -/
def last? {β : Type} (group : ModalSetting → Option β) (settings : List ModalSetting) : Option β :=
  (settings.filterMap group).getLast?

/-- A setting in front decides about its group unless a later one does. -/
theorem last?_cons {β : Type} (group : ModalSetting → Option β) (setting : ModalSetting)
    (rest : List ModalSetting) :
    last? group (setting :: rest) = (last? group rest).or (group setting) := by
  cases h : group setting with
  | none => rw [last?, List.filterMap_cons_none h, Option.or_none, last?]
  | some value =>
    rw [last?, List.filterMap_cons_some h, List.getLast?_cons, last?]
    cases (rest.filterMap group).getLast? <;> rfl

end ModalSetting

namespace ProgramState

variable {α : Type}

/-- Settings one after the other put the last one of each group in force. -/
theorem foldl_put (settings : List ModalSetting) (state : ProgramState α) :
    settings.foldl put state =
      { state with
        mode := (ModalSetting.last? ModalSetting.move? settings).getD state.mode
        plane := (ModalSetting.last? ModalSetting.plane? settings).getD state.plane
        unit := (ModalSetting.last? ModalSetting.unit? settings).getD state.unit
        distance := (ModalSetting.last? ModalSetting.distance? settings).getD state.distance } := by
  induction settings generalizing state with
  | nil => rfl
  | cons setting rest ih =>
    rw [List.foldl_cons, ih]
    simp only [ModalSetting.last?_cons, Option.getD_or]
    cases setting <;> rfl

end ProgramState

end Toolpath
