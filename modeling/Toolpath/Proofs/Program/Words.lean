import Toolpath.Program.Instruction

/-!
# Words of an instruction that is made of them

An instruction made of the words of a line has as many of them as there is room for, in their order
and with capital letters. What is looked up in it is then a matter of the line.
-/

namespace Toolpath

namespace Instruction

variable {α : Type}

/-- Words that are put behind others are kept as long as there is room. -/
theorem pushAll_words (instruction : Instruction α) (words : List (Word α)) :
    (instruction.pushAll words).words =
      instruction.words ++ (words.take (wordLimit - instruction.length)).map Word.capital := by
  induction words generalizing instruction with
  | nil => rw [pushAll, List.take_nil, List.map_nil, List.append_nil]
  | cons word rest ih =>
    by_cases h : instruction.words.length < wordLimit
    · have hroom : wordLimit - instruction.length =
          wordLimit - (instruction.words ++ [word.capital]).length + 1 := by
        rw [length, List.length_append, List.length_singleton]
        omega
      have hpush : instruction.push word = .ok ⟨instruction.words ++ [word.capital], _⟩ :=
        dif_pos h
      rw [pushAll, hpush, hroom, List.take_succ_cons, List.map_cons]
      exact (ih _).trans (List.append_assoc _ _ _)
    · have hroom : wordLimit - instruction.length = 0 := by
        rw [length]
        omega
      have hpush : instruction.push word = .error word.capital := dif_neg h
      rw [pushAll, hpush, hroom, List.take_zero, List.map_nil, List.append_nil]

/-- An instruction has the first words of its line, with capital letters. -/
theorem ofWords_words (words : List (Word α)) :
    (ofWords words).words = (words.take wordLimit).map Word.capital :=
  pushAll_words empty words

/-- Numbers of the words of a line with a letter, in order. -/
def numbersIn (words : List (Word α)) (letter : Char) : List α :=
  (words.filter fun word => word.letter.toUpper == letter.toUpper).map Word.value

/-- An instruction of a line that is not too long has the numbers of the line. -/
theorem ofWords_numbers {words : List (Word α)} (h : words.length ≤ wordLimit) (letter : Char) :
    (ofWords words).numbers letter = numbersIn words letter := by
  rw [numbers, ofWords_words, List.take_of_length_le h, List.filter_map, List.map_map]
  rfl

/-- Numbers of a line in two parts come in two parts. -/
theorem numbersIn_append (first second : List (Word α)) (letter : Char) :
    numbersIn (first ++ second) letter = numbersIn first letter ++ numbersIn second letter := by
  rw [numbersIn, List.filter_append, List.map_append]
  rfl

/-- Words that all have the letter give all their numbers. -/
theorem numbersIn_of_letter {letter other : Char} (h : other.toUpper = letter.toUpper)
    (values : List α) : numbersIn (values.map (Word.mk other)) letter = values := by
  have hall : ∀ word ∈ values.map (Word.mk other),
      (word.letter.toUpper == letter.toUpper) = true := by
    intro word hword
    obtain ⟨value, -, rfl⟩ := List.mem_map.mp hword
    exact beq_iff_eq.mpr h
  rw [numbersIn, List.filter_eq_self.mpr hall, List.map_map]
  exact List.map_id values

/-- Words that all have another letter give none. -/
theorem numbersIn_of_other_letter {letter other : Char} (h : other.toUpper ≠ letter.toUpper)
    (values : List α) : numbersIn (values.map (Word.mk other)) letter = [] := by
  rw [numbersIn, List.map_eq_nil_iff, List.filter_eq_nil_iff]
  intro word hword hletter
  obtain ⟨value, -, rfl⟩ := List.mem_map.mp hword
  exact h (beq_iff_eq.mp hletter)

end Instruction

end Toolpath
