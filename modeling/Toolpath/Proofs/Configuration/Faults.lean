import Toolpath.Configuration.Loading
import Toolpath.Proofs.Configuration.Usable

/-!
# The first condition that fails

A configuration has a list of conditions, each with the fault that tells of its failure. The check
of a configuration finds the first that fails. Whatever makes a machine, changes its configuration
or reads a configuration comes to the same as this check.
-/

namespace Toolpath

variable {α σ : Type} [Scalar α]

/-- Finite and above zero: what every length, rate and ratio has to be. -/
def Usable (x : α) : Prop := Scalar.isFinite x = true ∧ (0.0 : α) < x

instance (x : α) : Decidable (Usable x) := inferInstanceAs (Decidable (_ ∧ _))

/-- Numbers are found to be positive exactly when they are usable. -/
theorem isPositive_iff (x : α) : Scalar.isPositive x = true ↔ Usable x := by
  rw [Scalar.isPositive, Bool.and_eq_true, decide_eq_true_iff, Usable]

/-- Being usable is decided by the check for positive numbers. -/
theorem isPositive_eq_decide (x : α) : Scalar.isPositive x = decide (Usable x) := by
  rw [Bool.eq_iff_iff, isPositive_iff, decide_eq_true_iff]

namespace Configuration

/-- A condition of a configuration. -/
structure Condition (α : Type) where
  /-- The condition holds. -/
  holds : Bool
  /-- What is told when it does not. -/
  fault : ConfigFault α

/-- The condition on the steps per millimeter of an axis. -/
def ratioCondition (ratios : PerAxis α) (axis : Axis) : Condition α :=
  ⟨decide (Usable (ratios.get axis)), .stepsPerMillimeter axis.index (ratios.get axis)⟩

/-- Conditions of a configuration, in the order in which they are checked: line length, arc length,
feed rate, seek rate, correction interval, then the steps per millimeter axis by axis. -/
def conditions (config : Configuration α) : List (Condition α) :=
  [⟨decide (Usable config.lineSegmentLength.value),
      .lineSegmentLength config.lineSegmentLength.value⟩,
    ⟨decide (Usable config.arcSegmentLength.value),
      .arcSegmentLength config.arcSegmentLength.value⟩,
    ⟨decide (Usable config.feedRate.value), .feedRate config.feedRate.value⟩,
    ⟨decide (Usable config.seekRate.value), .seekRate config.seekRate.value⟩,
    ⟨decide (1 ≤ config.correctionInterval), .correctionInterval config.correctionInterval⟩] ++
  Axis.all.map (ratioCondition config.drive.stepsPerMillimeter)

/-- The condition on the arc length comes behind the one on the line length. -/
theorem conditions_eq (config : Configuration α) :
    config.conditions =
      [⟨decide (Usable config.lineSegmentLength.value),
        .lineSegmentLength config.lineSegmentLength.value⟩] ++
      ⟨decide (Usable config.arcSegmentLength.value),
        .arcSegmentLength config.arcSegmentLength.value⟩ :: config.conditions.drop 2 := rfl

/-- The fault of the first of some conditions that fails. -/
def firstFault? (conditions : List (Condition α)) : Option (ConfigFault α) :=
  (conditions.find? fun condition => !condition.holds).map Condition.fault

omit [Scalar α] in
/-- A condition that fails gives its fault, one that holds leaves the matter to the others. -/
theorem firstFault?_cons (condition : Condition α) (rest : List (Condition α)) :
    firstFault? (condition :: rest) =
      if !condition.holds then some condition.fault else firstFault? rest := by
  rw [firstFault?, List.find?_cons]
  cases condition.holds <;> rfl

omit [Scalar α] in
/-- A fault is found exactly if it is that of a condition which fails after others that hold. -/
theorem firstFault?_eq_some_iff {conditions : List (Condition α)} {fault : ConfigFault α} :
    firstFault? conditions = some fault ↔
      ∃ before condition after, conditions = before ++ condition :: after ∧
        (∀ earlier ∈ before, earlier.holds = true) ∧ condition.holds = false ∧
        condition.fault = fault := by
  rw [firstFault?, Option.map_eq_some_iff]
  simp only [List.find?_eq_some_iff_append, Bool.not_eq_true', Bool.not_not]
  constructor
  · rintro ⟨condition, ⟨hfails, before, after, hsplit, hbefore⟩, hfault⟩
    exact ⟨before, condition, after, hsplit, hbefore, hfails, hfault⟩
  · rintro ⟨before, condition, after, hsplit, hbefore, hfails, hfault⟩
    exact ⟨condition, ⟨hfails, before, after, hsplit, hbefore⟩, hfault⟩

/-- The ratios are checked axis by axis. -/
theorem ratioFault?_eq_firstFault? (ratios : PerAxis α) :
    ratioFault? ratios = firstFault? (Axis.all.map (ratioCondition ratios)) := by
  have hfails : (fun condition : Condition α => !condition.holds) ∘ ratioCondition ratios =
      fun axis => !Scalar.isPositive (ratios.get axis) :=
    funext fun axis => congrArg not (isPositive_eq_decide (ratios.get axis)).symm
  rw [ratioFault?, firstFault?, List.find?_map, Option.map_map, hfails]
  rfl

/-- An interval is zero exactly if it is not at least one. -/
theorem not_one_le_iff (interval : UInt8) : (!decide (1 ≤ interval)) = true ↔ interval = 0 := by
  rw [Bool.not_eq_true', decide_eq_false_iff_not, UInt8.le_iff_toNat_le, ← UInt8.toNat_inj]
  change ¬ 1 ≤ interval.toNat ↔ interval.toNat = 0
  omega

/-- The fault of a configuration is that of the first condition that fails. -/
theorem fault?_eq_firstFault? (config : Configuration α) :
    config.fault? = firstFault? config.conditions := by
  simp only [fault?, conditions, List.cons_append, List.nil_append, firstFault?_cons,
    Length.isPositive, isPositive_eq_decide, ratioFault?_eq_firstFault?, not_one_le_iff]

/-- A configuration has no fault exactly when its lengths, rates and ratios are usable and arcs are
corrected after at least one segment. -/
theorem fault?_eq_none_iff_usable (config : Configuration α) :
    config.fault? = none ↔
      Usable config.lineSegmentLength.value ∧ Usable config.arcSegmentLength.value ∧
      Usable config.feedRate.value ∧ Usable config.seekRate.value ∧
      1 ≤ config.correctionInterval ∧
      ∀ axis, Usable (config.drive.stepsPerMillimeter.get axis) := by
  have hinterval : config.correctionInterval ≠ 0 ↔ 1 ≤ config.correctionInterval := by
    rw [← not_iff_not, Classical.not_not, ← not_one_le_iff, Bool.not_eq_true',
      decide_eq_false_iff_not]
  simp only [fault?_eq_none_iff, Length.isPositive, isPositive_iff, hinterval]

end Configuration

end Toolpath
