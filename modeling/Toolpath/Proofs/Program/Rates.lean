import Toolpath.Proofs.Program.Modes

/-!
# The two rates of a program

A program has a rate for seek moves and one for all others. An instruction gives one of them: that
of the mode which its own modal settings put in force, in the unit which they put in force. The
other rate stays.
-/

namespace Toolpath

/-- The rates that a program has. -/
inductive RateKind where
  /-- Rate of seek moves. -/
  | seek
  /-- Rate of feed moves and arcs. -/
  | feed
  deriving DecidableEq, Repr

/-- The rate that belongs to a mode. Where nothing moves it is that of feed moves. -/
def MoveMode.rateKind : MoveMode → RateKind
  | .seek => .seek
  | .feed | .arc _ | .still => .feed

variable {α : Type}

/-- Default of a rate in millimeters per second. A configuration gives it per minute. -/
def Configuration.defaultRate [Scalar α] (config : Configuration α) : RateKind → α
  | .seek => config.seekRate.value / 60.0
  | .feed => config.feedRate.value / 60.0

namespace ProgramState

/-- A rate of the program, in millimeters per second. -/
def rate (state : ProgramState α) : RateKind → α
  | .seek => state.seekRate
  | .feed => state.feedRate

/-- The position has no say in the rates. -/
theorem rate_withPosition (state : ProgramState α) (position : PerAxis α) (kind : RateKind) :
    { state with position }.rate kind = state.rate kind := by
  cases kind <;> rfl

/-- Setting a rate sets that of the mode in force. -/
theorem setRate_rate (state : ProgramState α) (given : α) (kind : RateKind) :
    (state.setRate given).rate kind =
      if state.mode.rateKind = kind then given else state.rate kind := by
  rcases state with ⟨position, mode, unit, distance, plane, feedRate, seekRate⟩
  cases mode <;> cases kind <;> rfl

variable [Scalar α]

/-- An instruction gives a rate: the first of its words for one has the value, and the rate is that
of the mode which the instruction puts in force. -/
def GivesRate (state : ProgramState α) (kind : RateKind) (instruction : Instruction α)
    (value : α) : Prop :=
  (state.withModes instruction).mode.rateKind = kind ∧
    (instruction.words.find? fun word => word.letter == 'F').map Word.value = some value

/-- Modal settings change no rate. -/
theorem withModes_rate (state : ProgramState α) (instruction : Instruction α) (kind : RateKind) :
    (state.withModes instruction).rate kind = state.rate kind := by
  cases kind with
  | seek => exact (foldl_put_eq _ state).2.2
  | feed => exact (foldl_put_eq _ state).2.1

/-- The rate that an instruction gives is in force after it, in millimeters per second. -/
theorem withRate_rate_of_gives {state : ProgramState α} {kind : RateKind}
    {instruction : Instruction α} {value : α} (h : state.GivesRate kind instruction value) :
    ((state.withModes instruction).withRate instruction).rate kind =
      (state.withModes instruction).inMillimeters value / 60.0 := by
  obtain ⟨hkind, hword⟩ := h
  have hvalue : instruction.number? 'F' = some value := hword
  rw [withRate, hvalue]
  dsimp only
  rw [setRate_rate, if_pos hkind, secondsPerMinute]

/-- A rate that an instruction does not give stays. -/
theorem withRate_rate_of_not_gives {state : ProgramState α} {kind : RateKind}
    {instruction : Instruction α} (h : ∀ value, ¬ state.GivesRate kind instruction value) :
    ((state.withModes instruction).withRate instruction).rate kind = state.rate kind := by
  rw [withRate]
  cases hvalue : instruction.number? 'F' with
  | none => exact state.withModes_rate instruction kind
  | some value =>
    have hkind : (state.withModes instruction).mode.rateKind ≠ kind := fun hkind =>
      h value ⟨hkind, hvalue⟩
    dsimp only
    rw [setRate_rate, if_neg hkind, withModes_rate]

end ProgramState

end Toolpath
