import Toolpath.Proofs.Program.Measures

/-!
# What words mean together

Of the words that make modal settings the last one of each group counts, of those that give a length
or a rate the first one of each letter. The meaning of some words keeps just that. Words one after
the other mean what their meanings do: in each group the later setting wins, at each letter the
earlier number. So a word can be left out where it is overruled or repeats a letter, and neighbours
can change places unless they are of one letter and, as settings, of one group.
-/

namespace Toolpath

/-- Groups of modal settings. -/
inductive ModalGroup where
  /-- Ways of moving. -/
  | move
  /-- Planes of arcs. -/
  | plane
  /-- Units of lengths. -/
  | unit
  /-- What coordinates count from. -/
  | distance
  deriving DecidableEq, Repr

namespace ModalSetting

/-- Group that a setting belongs to. -/
def group : ModalSetting → ModalGroup
  | .move _ => .move
  | .plane _ => .plane
  | .unit _ => .unit
  | .distance _ => .distance

/-- The last of some settings that belongs to a group. -/
def lastOf (group : ModalGroup) (settings : List ModalSetting) : Option ModalSetting :=
  (settings.filter fun setting => setting.group = group).getLast?

/-- What the last setting of a group selects is what is selected last. -/
theorem last?_eq_bind {β : Type} {select : ModalSetting → Option β} {group : ModalGroup}
    (h : ∀ setting, (select setting).isSome = decide (setting.group = group))
    (settings : List ModalSetting) :
    last? select settings = (lastOf group settings).bind select := by
  rw [lastOf, ← List.filter_congr fun setting _ => h setting]
  exact (getLast?_filter_bind select settings).symm

/-- A setting in front counts in its group unless a later one does. -/
theorem lastOf_cons (group : ModalGroup) (setting : ModalSetting) (rest : List ModalSetting) :
    lastOf group (setting :: rest) =
      (lastOf group rest).or (if setting.group = group then some setting else none) := by
  by_cases h : setting.group = group
  · rw [lastOf, List.filter_cons_of_pos (by simpa using h), List.getLast?_cons, if_pos h, lastOf]
    cases (rest.filter fun setting => setting.group = group).getLast? <;> rfl
  · rw [lastOf, List.filter_cons_of_neg (by simpa using h), if_neg h, Option.or_none, lastOf]

end ModalSetting

namespace ProgramState

variable {α : Type}

/-- Settings whose last ones are the same in each group put the same in force. -/
theorem foldl_put_congr {first second : List ModalSetting}
    (h : ∀ group, ModalSetting.lastOf group first = ModalSetting.lastOf group second)
    (state : ProgramState α) : first.foldl put state = second.foldl put state := by
  have hselect {β : Type} {select : ModalSetting → Option β} (group : ModalGroup)
      (hgroup : ∀ setting, (select setting).isSome = decide (setting.group = group)) :
      ModalSetting.last? select first = ModalSetting.last? select second := by
    rw [ModalSetting.last?_eq_bind hgroup, ModalSetting.last?_eq_bind hgroup, h]
  have hmove : ModalSetting.last? ModalSetting.move? first =
      ModalSetting.last? ModalSetting.move? second :=
    hselect .move fun setting => by cases setting <;> rfl
  have hplane : ModalSetting.last? ModalSetting.plane? first =
      ModalSetting.last? ModalSetting.plane? second :=
    hselect .plane fun setting => by cases setting <;> rfl
  have hunit : ModalSetting.last? ModalSetting.unit? first =
      ModalSetting.last? ModalSetting.unit? second :=
    hselect .unit fun setting => by cases setting <;> rfl
  have hdistance : ModalSetting.last? ModalSetting.distance? first =
      ModalSetting.last? ModalSetting.distance? second :=
    hselect .distance fun setting => by cases setting <;> rfl
  rw [foldl_put, foldl_put, hmove, hplane, hunit, hdistance]

/-- The setting of a group that is in force. -/
def inForce (state : ProgramState α) : ModalGroup → ModalSetting
  | .move => .move state.mode
  | .plane => .plane state.plane
  | .unit => .unit state.unit
  | .distance => .distance state.distance

/-- A setting that is put in force is so in its own group, and the others keep theirs. -/
theorem put_inForce (state : ProgramState α) (setting : ModalSetting) (group : ModalGroup) :
    (state.put setting).inForce group =
      if setting.group = group then setting else state.inForce group := by
  cases setting <;> cases group <;> rfl

/-- Settings one after the other leave the last one of each group in force. -/
theorem foldl_put_inForce (settings : List ModalSetting) (state : ProgramState α)
    (group : ModalGroup) :
    (settings.foldl put state).inForce group =
      (ModalSetting.lastOf group settings).getD (state.inForce group) := by
  induction settings generalizing state with
  | nil => rfl
  | cons setting rest ih =>
    rw [List.foldl_cons, ih, put_inForce, ModalSetting.lastOf_cons, Option.getD_or]
    split <;> rfl

end ProgramState

/-- What some words mean together. -/
@[ext] structure Meaning (α : Type) where
  /-- The setting that they make in each group. -/
  setting : ModalGroup → Option ModalSetting
  /-- The length or rate that they give under each letter. -/
  number : Char → Option α

namespace Meaning

variable {α : Type}

/-- The meaning of no words. -/
def nothing : Meaning α := ⟨fun _ => none, fun _ => none⟩

/-- The meaning of words with one meaning before words with another. -/
def andThen (first second : Meaning α) : Meaning α where
  setting group := (second.setting group).or (first.setting group)
  number letter := (first.number letter).or (second.number letter)

/-- In each group the later setting wins. -/
@[simp] theorem andThen_setting (first second : Meaning α) (group : ModalGroup) :
    (first.andThen second).setting group = (second.setting group).or (first.setting group) := rfl

/-- Under each letter the earlier number wins. -/
@[simp] theorem andThen_number (first second : Meaning α) (letter : Char) :
    (first.andThen second).number letter = (first.number letter).or (second.number letter) := rfl

/-- Nothing comes first. -/
theorem nothing_andThen (meaning : Meaning α) : nothing.andThen meaning = meaning := by
  ext1
  · exact funext fun group => Option.or_none
  · exact funext fun letter => Option.none_or

/-- Meanings one after the other can be grouped. -/
theorem andThen_assoc (first second third : Meaning α) :
    (first.andThen second).andThen third = first.andThen (second.andThen third) := by
  ext1
  · exact funext fun group => (Option.or_assoc).symm
  · exact funext fun letter => Option.or_assoc

/-- A meaning that leaves to another one what that says, or says as much, adds nothing in front. -/
theorem andThen_eq_right {first second : Meaning α}
    (hsetting : ∀ group, first.setting group = none ∨ (second.setting group).isSome)
    (hnumber : ∀ letter, first.number letter = none) : first.andThen second = second := by
  ext1
  · funext group
    rw [andThen_setting]
    rcases hsetting group with hnone | hsome
    · rw [hnone, Option.or_none]
    · exact Option.or_of_isSome hsome
  · funext letter
    rw [andThen_number, hnumber, Option.none_or]

/-- A meaning that only says what the one in front of it says already adds nothing behind it. -/
theorem andThen_eq_left {first second : Meaning α} (hsetting : ∀ group, second.setting group = none)
    (hnumber : ∀ letter, second.number letter = none ∨ (first.number letter).isSome) :
    first.andThen second = first := by
  ext1
  · funext group
    rw [andThen_setting, hsetting, Option.none_or]
  · funext letter
    rw [andThen_number]
    rcases hnumber letter with hnone | hsome
    · rw [hnone, Option.or_none]
    · exact Option.or_of_isSome hsome

/-- Meanings that speak of different things can change places. -/
theorem andThen_comm {first second : Meaning α}
    (hsetting : ∀ group, first.setting group = none ∨ second.setting group = none)
    (hnumber : ∀ letter, first.number letter = none ∨ second.number letter = none) :
    first.andThen second = second.andThen first := by
  ext1
  · funext group
    rw [andThen_setting, andThen_setting]
    rcases hsetting group with hnone | hnone <;> rw [hnone, Option.none_or, Option.or_none]
  · funext letter
    rw [andThen_number, andThen_number]
    rcases hnumber letter with hnone | hnone <;> rw [hnone, Option.none_or, Option.or_none]

variable [Scalar α]

/-- The meaning of one word. -/
def ofWord (word : Word α) : Meaning α where
  setting group := word.setting?.filter fun setting => setting.group = group
  number letter := if word.letter = letter ∧ letter ∈ measureLetters then some word.value else none

/-- A word makes a setting in its own group. -/
theorem ofWord_setting (word : Word α) (group : ModalGroup) :
    (ofWord word).setting group = word.setting?.filter fun setting => setting.group = group := rfl

/-- A word gives a number under its own letter, if that is one of a length or a rate. -/
theorem ofWord_number (word : Word α) (letter : Char) :
    (ofWord word).number letter =
      if word.letter = letter ∧ letter ∈ measureLetters then some word.value else none := rfl

/-- The meaning of some words. -/
def ofWords : List (Word α) → Meaning α
  | [] => nothing
  | word :: rest => (ofWord word).andThen (ofWords rest)

/-- Words one after the other mean what their meanings do. -/
theorem ofWords_append (first second : List (Word α)) :
    ofWords (first ++ second) = (ofWords first).andThen (ofWords second) := by
  induction first with
  | nil => exact (nothing_andThen _).symm
  | cons word rest ih => rw [List.cons_append, ofWords, ofWords, ih, andThen_assoc]

/-- In each group words make the last setting of the group. -/
theorem ofWords_setting (words : List (Word α)) (group : ModalGroup) :
    (ofWords words).setting group =
      ModalSetting.lastOf group (words.filterMap Word.setting?) := by
  induction words with
  | nil => rfl
  | cons word rest ih =>
    rw [ofWords, andThen_setting, ih, ofWord_setting]
    cases hsetting : word.setting? with
    | none => rw [List.filterMap_cons_none hsetting, Option.filter_none, Option.or_none]
    | some setting =>
      rw [List.filterMap_cons_some hsetting, ModalSetting.lastOf_cons, Option.filter_some]
      simp only [decide_eq_true_eq]

/-- Under each letter of a length or a rate words give the first number. -/
theorem ofWords_number (words : List (Word α)) {letter : Char} (h : letter ∈ measureLetters) :
    (ofWords words).number letter =
      (words.find? fun word => word.letter == letter).map Word.value := by
  induction words with
  | nil => rfl
  | cons word rest ih =>
    rw [ofWords, andThen_number, ih, ofWord_number]
    by_cases hletter : word.letter = letter
    · rw [if_pos ⟨hletter, h⟩, List.find?_cons_of_pos (by simpa using hletter)]
      rfl
    · rw [if_neg fun hboth => hletter hboth.1, List.find?_cons_of_neg (by simpa using hletter)]
      rfl

/-- Under other letters words give nothing. -/
theorem ofWords_number_of_not_mem (words : List (Word α)) {letter : Char}
    (h : letter ∉ measureLetters) : (ofWords words).number letter = none := by
  induction words with
  | nil => rfl
  | cons word rest ih =>
    rw [ofWords, andThen_number, ih, ofWord_number]
    rw [if_neg fun hboth => h hboth.2]
    rfl

end Meaning

namespace Word

variable {α : Type} [Scalar α]

/-- A word between others has no say. -/
inductive Idle (front : List (Word α)) (word : Word α) (rest : List (Word α)) : Prop
  /-- Its letter stands for nothing. -/
  | foreign (hmode : word.letter ≠ 'G') (hmeasure : word.letter ∉ measureLetters)
  /-- Its number makes no setting. -/
  | unknown (hmode : word.letter = 'G') (hnumber : ModalSetting.ofNumber? word.value = none)
  /-- A later word makes another setting of the group. -/
  | overruled (later : Word α) (overruling setting : ModalSetting) (hmem : later ∈ rest)
      (hlater : later.setting? = some overruling) (hword : word.setting? = some setting)
      (hgroup : overruling.group = setting.group)
  /-- An earlier word gives a length or a rate under the same letter. -/
  | repeated (earlier : Word α) (hmem : earlier ∈ front) (hletter : earlier.letter = word.letter)
      (hmode : word.letter ≠ 'G')

/-- Neighbours can change places: they have different letters, or they make no settings of one
group. -/
inductive Apart (one other : Word α) : Prop
  /-- They have different letters. -/
  | letters (hletter : one.letter ≠ other.letter)
  /-- They make no settings of one group. -/
  | groups (hone : one.letter = 'G') (hother : other.letter = 'G')
      (hgroup : ∀ first second, one.setting? = some first → other.setting? = some second →
        first.group ≠ second.group)

/-- A word with another letter makes no setting. -/
theorem setting?_of_letter_ne {word : Word α} (h : word.letter ≠ 'G') : word.setting? = none :=
  if_neg (by simpa using h)

/-- Words that make settings have the letter of such words. -/
theorem letter_of_setting? {word : Word α} {setting : ModalSetting}
    (h : word.setting? = some setting) : word.letter = 'G' :=
  Decidable.byContradiction fun hletter => by
    rw [setting?_of_letter_ne hletter] at h
    exact absurd h (Option.some_ne_none setting).symm

end Word

namespace Meaning

variable {α : Type} [Scalar α] {word : Word α}

/-- A word without a setting makes none in any group. -/
theorem ofWord_setting_of_none (h : word.setting? = none) (group : ModalGroup) :
    (ofWord word).setting group = none := by
  rw [ofWord_setting, h, Option.filter_none]

/-- A word makes no setting in a group that is not its own. -/
theorem ofWord_setting_of_other {setting : ModalSetting} {group : ModalGroup}
    (h : word.setting? = some setting) (hother : setting.group ≠ group) :
    (ofWord word).setting group = none := by
  rw [ofWord_setting, h, Option.filter_some, if_neg (by simpa using hother)]

/-- A word gives nothing under letters that are not its own. -/
theorem ofWord_number_of_ne {letter : Char} (h : word.letter ≠ letter) :
    (ofWord word).number letter = none := by
  rw [ofWord_number, if_neg fun hboth => h hboth.1]

/-- A word whose letter has no measure gives nothing. -/
theorem ofWord_number_of_not_mem (h : word.letter ∉ measureLetters) (letter : Char) :
    (ofWord word).number letter = none := by
  rw [ofWord_number, if_neg]
  rintro ⟨rfl, hmeasure⟩
  exact h hmeasure

/-- A modal word gives nothing. -/
theorem ofWord_number_of_modal (h : word.letter = 'G') (letter : Char) :
    (ofWord word).number letter = none :=
  ofWord_number_of_not_mem (by rw [h]; decide) letter

/-- Where one of some words makes a setting of a group, they make one together. -/
theorem ofWords_setting_isSome {words : List (Word α)} {setting : ModalSetting}
    (hmem : word ∈ words) (hsetting : word.setting? = some setting) :
    ((ofWords words).setting setting.group).isSome := by
  have hmade : setting ∈ (words.filterMap Word.setting?).filter fun made =>
      made.group = setting.group :=
    List.mem_filter.mpr ⟨List.mem_filterMap.mpr ⟨word, hmem, hsetting⟩, decide_eq_true rfl⟩
  rw [ofWords_setting, ModalSetting.lastOf, List.getLast?_isSome]
  exact List.ne_nil_of_mem hmade

/-- Where one of some words gives a length or a rate, they give one under its letter together. -/
theorem ofWords_number_isSome {words : List (Word α)} (hmem : word ∈ words)
    (hmeasure : word.letter ∈ measureLetters) : ((ofWords words).number word.letter).isSome := by
  rw [ofWords_number words hmeasure, Option.isSome_map, List.find?_isSome]
  exact ⟨word, hmem, beq_self_eq_true word.letter⟩

/-- A word without a say can be left out. -/
theorem ofWords_of_idle {front rest : List (Word α)} (h : word.Idle front rest) :
    ofWords (front ++ word :: rest) = ofWords (front ++ rest) := by
  rw [ofWords_append, ofWords_append, ofWords]
  cases h with
  | foreign hmode hmeasure =>
    have hsetting := ofWord_setting_of_none (Word.setting?_of_letter_ne hmode)
    rw [andThen_eq_right (fun group => .inl (hsetting group)) (ofWord_number_of_not_mem hmeasure)]
  | unknown hmode hnumber =>
    have hnone : word.setting? = none := by
      rw [Word.setting?, hnumber, ite_self]
    have hsetting := ofWord_setting_of_none hnone
    rw [andThen_eq_right (fun group => .inl (hsetting group)) (ofWord_number_of_modal hmode)]
  | overruled later overruling setting hmem hlater hword hgroup =>
    have hsetting (group : ModalGroup) :
        (ofWord word).setting group = none ∨ ((ofWords rest).setting group).isSome := by
      by_cases hown : setting.group = group
      · rw [← hown, ← hgroup]
        exact .inr (ofWords_setting_isSome hmem hlater)
      · exact .inl (ofWord_setting_of_other hword hown)
    rw [andThen_eq_right hsetting (ofWord_number_of_modal (Word.letter_of_setting? hword))]
  | repeated earlier hmem hletter hmode =>
    have hsetting := ofWord_setting_of_none (Word.setting?_of_letter_ne hmode)
    have hnumber (letter : Char) :
        (ofWord word).number letter = none ∨ ((ofWords front).number letter).isSome := by
      by_cases hown : word.letter = letter ∧ letter ∈ measureLetters
      · obtain ⟨rfl, hmeasure⟩ := hown
        rw [← hletter] at hmeasure ⊢
        exact .inr (ofWords_number_isSome hmem hmeasure)
      · exact .inl (if_neg hown)
    rw [← andThen_assoc, andThen_eq_left hsetting hnumber]

/-- Neighbours that are apart can change places. -/
theorem ofWords_of_apart {one other : Word α} (h : one.Apart other)
    (front rest : List (Word α)) :
    ofWords (front ++ one :: other :: rest) = ofWords (front ++ other :: one :: rest) := by
  have hcomm : (ofWord one).andThen (ofWord other) = (ofWord other).andThen (ofWord one) := by
    cases h with
    | letters hletter =>
      refine andThen_comm (fun group => ?_) (fun letter => ?_)
      · by_cases hmode : one.letter = 'G'
        · have hother : other.letter ≠ 'G' := fun hother => hletter (hmode.trans hother.symm)
          exact .inr (ofWord_setting_of_none (Word.setting?_of_letter_ne hother) group)
        · exact .inl (ofWord_setting_of_none (Word.setting?_of_letter_ne hmode) group)
      · by_cases hown : one.letter = letter
        · have hother : other.letter ≠ letter := fun hother => hletter (hown.trans hother.symm)
          exact .inr (ofWord_number_of_ne hother)
        · exact .inl (ofWord_number_of_ne hown)
    | groups hone hother hgroup =>
      refine andThen_comm (fun group => ?_) fun letter =>
        .inl (ofWord_number_of_modal hone letter)
      cases hfirst : one.setting? with
      | none => exact .inl (ofWord_setting_of_none hfirst group)
      | some first =>
        by_cases hown : first.group = group
        · cases hsecond : other.setting? with
          | none => exact .inr (ofWord_setting_of_none hsecond group)
          | some second =>
            have hne := hgroup first second hfirst hsecond
            rw [hown] at hne
            exact .inr (ofWord_setting_of_other hsecond hne.symm)
        · exact .inl (ofWord_setting_of_other hfirst hown)
  simp only [ofWords_append, ofWords]
  rw [← andThen_assoc (ofWord one), hcomm, andThen_assoc]

end Meaning

namespace Instruction

variable {α : Type} [Scalar α]

/-- What the words of an instruction mean together. -/
def meaning (instruction : Instruction α) : Meaning α := .ofWords instruction.words

/-- In each group the last setting counts. -/
theorem meaning_setting (instruction : Instruction α) (group : ModalGroup) :
    instruction.meaning.setting group = ModalSetting.lastOf group instruction.settings := by
  rw [meaning, Meaning.ofWords_setting, settings_eq]

/-- Under each letter of a length or a rate the first number counts. -/
theorem meaning_number (instruction : Instruction α) {letter : Char} (h : letter ∈ measureLetters) :
    instruction.meaning.number letter = instruction.number? letter := by
  rw [meaning, Meaning.ofWords_number _ h, number?, toUpper_of_mem_measureLetters letter h]

/-- Instructions with the same last setting in each group and the same first number under each
letter mean the same. -/
theorem meaning_eq {first second : Instruction α}
    (hsettings : ∀ group,
      ModalSetting.lastOf group first.settings = ModalSetting.lastOf group second.settings)
    (hnumbers : ∀ letter ∈ measureLetters, first.number? letter = second.number? letter) :
    first.meaning = second.meaning := by
  ext1
  · funext group
    rw [meaning_setting, meaning_setting, hsettings]
  · funext letter
    by_cases h : letter ∈ measureLetters
    · rw [meaning_number first h, meaning_number second h, hnumbers letter h]
    · rw [meaning, meaning, Meaning.ofWords_number_of_not_mem _ h,
        Meaning.ofWords_number_of_not_mem _ h]

/-- The instruction without its modal words. -/
def withoutModes (instruction : Instruction α) : Instruction α :=
  ⟨instruction.words.filter fun word => word.letter != 'G',
    Nat.le_trans (List.length_filter_le _ _) instruction.length_le⟩

/-- It makes no settings. -/
theorem withoutModes_settings (instruction : Instruction α) :
    instruction.withoutModes.settings = [] := by
  rw [settings_eq, withoutModes, List.filterMap_eq_nil_iff]
  intro word hword
  exact Word.setting?_of_letter_ne (by simpa using (List.mem_filter.mp hword).2)

omit [Scalar α] in
/-- Its lengths and rates are those of the instruction. -/
theorem withoutModes_number? (instruction : Instruction α) {letter : Char}
    (h : letter ∈ measureLetters) :
    instruction.withoutModes.number? letter = instruction.number? letter := by
  have hother : letter ≠ 'G' := by
    rintro rfl
    exact absurd h (by decide)
  have hkept : (fun word : Word α =>
      decide ((word.letter != 'G') = true ∧ (word.letter == letter.toUpper) = true)) =
      fun word => word.letter == letter.toUpper := by
    funext word
    rw [Bool.eq_iff_iff, decide_eq_true_iff]
    refine and_iff_right_of_imp fun hletter => bne_iff_ne.mpr ?_
    rw [eq_of_beq hletter, toUpper_of_mem_measureLetters letter h]
    exact hother
  rw [number?, number?, withoutModes, List.find?_filter, hkept]

end Instruction

end Toolpath
