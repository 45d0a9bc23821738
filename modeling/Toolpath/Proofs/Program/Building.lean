import Toolpath.Proofs.Program.Words

/-!
# Ways to build an instruction

The words of a line can be put together in three ways: all at once until one is handed back, one
after the other with those dropped that find no room, or by pushes of which each tells what it
handed back. An instruction that is full stays full, so all three come to the first words of the
line. What is looked up afterwards is what these words say, and the case of an ASCII letter never
matters.
-/

namespace Toolpath

/-- Code of a character as an ASCII capital. -/
theorem toUpper_toNat (c : Char) :
    c.toUpper.toNat = if 97 ≤ c.toNat ∧ c.toNat ≤ 122 then c.toNat - 32 else c.toNat := by
  have hrange : ('a'.val ≤ c.val ∧ c.val ≤ 'z'.val) ↔ 97 ≤ c.toNat ∧ c.toNat ≤ 122 := by
    rw [UInt32.le_iff_toNat_le, UInt32.le_iff_toNat_le]
    rfl
  by_cases h : 97 ≤ c.toNat ∧ c.toNat ≤ 122
  · have hcapital : c.toUpper.val = c.val + ('A'.val - 'a'.val) := by
      delta Char.toUpper
      rw [dif_pos (hrange.mpr h)]
    have hshift : ('A'.val - 'a'.val).toNat = 4294967264 := rfl
    rw [if_pos h, ← Char.toNat_val, hcapital, UInt32.toNat_add, hshift, Char.toNat_val]
    omega
  · have hsame : c.toUpper = c := dif_neg fun hin => h (hrange.mp hin)
    rw [if_neg h, hsame]

/-- Code of a character as an ASCII small letter. -/
theorem toLower_toNat (c : Char) :
    c.toLower.toNat = if 65 ≤ c.toNat ∧ c.toNat ≤ 90 then c.toNat + 32 else c.toNat := by
  have hrange : ('A'.val ≤ c.val ∧ c.val ≤ 'Z'.val) ↔ 65 ≤ c.toNat ∧ c.toNat ≤ 90 := by
    rw [UInt32.le_iff_toNat_le, UInt32.le_iff_toNat_le]
    rfl
  by_cases h : 65 ≤ c.toNat ∧ c.toNat ≤ 90
  · have hsmall : c.toLower.val = c.val + ('a'.val - 'A'.val) := by
      delta Char.toLower
      rw [dif_pos (hrange.mpr h)]
    have hshift : ('a'.val - 'A'.val).toNat = 32 := rfl
    rw [if_pos h, ← Char.toNat_val, hsmall, UInt32.toNat_add, hshift, Char.toNat_val]
    omega
  · have hsame : c.toLower = c := dif_neg fun hin => h (hrange.mp hin)
    rw [if_neg h, hsame]

/-- A capital letter is its own capital. -/
theorem toUpper_toUpper (c : Char) : c.toUpper.toUpper = c.toUpper := by
  rw [← Char.toNat_inj, toUpper_toNat c.toUpper, toUpper_toNat c]
  grind

/-- A letter and its small letter have one capital. -/
theorem toUpper_toLower (c : Char) : c.toLower.toUpper = c.toUpper := by
  rw [← Char.toNat_inj, toUpper_toNat, toUpper_toNat, toLower_toNat]
  grind

namespace Instruction

variable {α : Type}

/-- What a push comes to: the word if it is handed back, and the instruction afterwards. -/
def pushed (instruction : Instruction α) (word : Word α) : Option (Word α) × Instruction α :=
  match instruction.push word with
  | .ok next => (none, next)
  | .error refused => (some refused, instruction)

/-- Push the words of a line, whatever is handed back. The list says so for each of them. -/
def pushEach (instruction : Instruction α) :
    List (Word α) → List (Option (Word α)) × Instruction α
  | [] => ([], instruction)
  | word :: rest =>
    let first := instruction.pushed word
    let others := first.2.pushEach rest
    (first.1 :: others.1, others.2)

/-- An instruction with room takes a word in, with a capital letter. -/
theorem push_of_room {instruction : Instruction α} (h : instruction.length < wordLimit)
    (word : Word α) :
    ∃ next, instruction.push word = .ok next ∧
      next.words = instruction.words ++ [word.capital] :=
  ⟨_, dif_pos h, rfl⟩

/-- An instruction without room is full. -/
theorem length_of_no_room {instruction : Instruction α} (h : ¬ instruction.length < wordLimit) :
    instruction.length = wordLimit :=
  Nat.le_antisymm instruction.length_le (Nat.not_lt.mp h)

/-- Instructions with the same words are the same. -/
theorem eq_of_words {first second : Instruction α} (h : first.words = second.words) :
    first = second := by
  cases first
  cases second
  cases h
  rfl

/-- A dropped word and a word that is handed back leave the same instruction. -/
theorem add_eq_pushed (instruction : Instruction α) (word : Word α) :
    instruction.add word = (instruction.pushed word).2 := by
  rw [add, pushed]
  cases instruction.push word <;> rfl

/-- A word for which there is room is not handed back. -/
theorem pushed_of_ok {instruction next : Instruction α} {word : Word α}
    (h : instruction.push word = .ok next) : instruction.pushed word = (none, next) := by
  rw [pushed, h]

/-- A full instruction hands a word back and stays as it is. -/
theorem pushed_of_full {instruction : Instruction α} (h : instruction.length = wordLimit)
    (word : Word α) : instruction.pushed word = (some word.capital, instruction) := by
  rw [pushed, push_of_full h]

/-- A full instruction hands every word back and stays as it is. -/
theorem pushEach_of_full {instruction : Instruction α} (h : instruction.length = wordLimit)
    (line : List (Word α)) :
    instruction.pushEach line = (line.map fun word => some word.capital, instruction) := by
  induction line with
  | nil => rfl
  | cons word rest ih => simp only [pushEach, pushed_of_full h, ih, List.map_cons]

/-- Pushes take words in while there is room and hand every other one back. They go on after a
refusal, and still come to the same as those that stop there. -/
theorem pushEach_eq (instruction : Instruction α) (line : List (Word α)) :
    instruction.pushEach line =
      ((line.take (wordLimit - instruction.length)).map (fun _ => none) ++
          (line.drop (wordLimit - instruction.length)).map (fun word => some word.capital),
        instruction.pushAll line) := by
  induction line generalizing instruction with
  | nil => rw [List.take_nil, List.drop_nil]; rfl
  | cons word rest ih =>
    by_cases h : instruction.length < wordLimit
    · obtain ⟨next, hpush, hwords⟩ := push_of_room h word
      have hroom : wordLimit - instruction.length = wordLimit - next.length + 1 := by
        rw [length, length, hwords, List.length_append, List.length_singleton]
        rw [length] at h
        omega
      simp only [pushEach, pushAll, pushed_of_ok hpush, hpush, ih, hroom, List.take_succ_cons,
        List.drop_succ_cons, List.map_cons, List.cons_append]
    · have hfull := length_of_no_room h
      rw [pushEach_of_full hfull, pushAll, push_of_full hfull, hfull, Nat.sub_self, List.take_zero,
        List.drop_zero, List.map_nil, List.nil_append]

/-- Words dropped one by one come to the same as words handed back one by one. -/
theorem foldl_add_eq_pushEach (instruction : Instruction α) (line : List (Word α)) :
    line.foldl add instruction = (instruction.pushEach line).2 := by
  induction line generalizing instruction with
  | nil => rfl
  | cons word rest ih =>
    rw [List.foldl_cons, ih, add_eq_pushed]
    rfl

/-- A line has as many words in its instruction as there is room for. -/
theorem ofWords_length (line : List (Word α)) :
    (ofWords line).length = min wordLimit line.length := by
  rw [length, ofWords_words, List.length_map, List.length_take]

/-- As long as there is room, the next word of a line is taken in. -/
theorem ofWords_push_of_room {line : List (Word α)} (h : line.length < wordLimit)
    (word : Word α) : (ofWords line).push word = .ok (ofWords (line ++ [word])) := by
  have hroom : (ofWords line).length < wordLimit := by
    rw [ofWords_length]
    omega
  obtain ⟨next, hpush, hwords⟩ := push_of_room hroom word
  have hline : (line ++ [word]).length ≤ wordLimit := by
    rw [List.length_append, List.length_singleton]
    exact h
  have hnext : next = ofWords (line ++ [word]) := by
    apply eq_of_words
    rw [hwords, ofWords_words, ofWords_words, List.take_of_length_le (Nat.le_of_lt h),
      List.take_of_length_le hline, List.map_append, List.map_singleton]
  rw [hpush, hnext]

/-- Once there is no room, the next word of a line is handed back and changes nothing. -/
theorem ofWords_push_of_full {line : List (Word α)} (h : wordLimit ≤ line.length)
    (word : Word α) :
    (ofWords line).push word = .error word.capital ∧ ofWords (line ++ [word]) = ofWords line := by
  have hfull : (ofWords line).length = wordLimit := by
    rw [ofWords_length]
    omega
  refine ⟨push_of_full hfull word, eq_of_words ?_⟩
  rw [ofWords_words, ofWords_words, List.take_append_of_le_length h]

/-- The numbers of a letter are those that the words kept of the line give for it. -/
theorem ofWords_numbers_take (line : List (Word α)) (letter : Char) :
    (ofWords line).numbers letter = numbersIn (line.take wordLimit) letter := by
  have hkept : ofWords line = ofWords (line.take wordLimit) :=
    eq_of_words (by rw [ofWords_words, ofWords_words, List.take_take, Nat.min_self])
  rw [hkept, ofWords_numbers (List.length_take_le _ _)]

/-- All that can be looked up for a letter. -/
def lookUp (instruction : Instruction α) (letter : Char) : List α × Option α × Bool :=
  (instruction.numbers letter, instruction.number? letter, instruction.has letter)

/-- Letters with one capital are looked up alike. -/
theorem lookUp_congr (instruction : Instruction α) {letter other : Char}
    (h : other.toUpper = letter.toUpper) :
    instruction.lookUp other = instruction.lookUp letter := by
  have hnumbers : instruction.numbers other = instruction.numbers letter := by
    rw [numbers, numbers, h]
  simp only [lookUp, has, number?_eq_head?, hnumbers]

/-- There is a number of a letter exactly if its numbers are not none at all. -/
theorem has_iff (instruction : Instruction α) (letter : Char) :
    instruction.has letter = true ↔ instruction.numbers letter ≠ [] := by
  rw [has, number?_eq_head?, List.isSome_head?]

/-- Three ways to build an instruction agree, and what is looked up agrees with the words kept.
Whatever the words of a line are: made of all its words at once, added one by one and pushed one by
one they give one instruction, with the first sixteen words, or all if there are fewer, in order and
with their letters as ASCII capitals. After a line, another word is taken in if the line has fewer
than sixteen words; otherwise it is handed back with a capital letter and nothing changes, so that
exactly the words from the seventeenth on are handed back. For every letter the numbers looked up
are those of the kept words whose letter has the same ASCII capital, in order; the number is the
first of them, and the instruction has the letter exactly if there is one. The case of an ASCII
letter changes none of the three. -/
theorem built_alike (line : List (Word α)) :
    line.foldl add empty = ofWords line ∧
    (empty.pushEach line).2 = ofWords line ∧
    (ofWords line).words = (line.take 16).map Word.capital ∧
    (ofWords line).length = min 16 line.length ∧
    (∀ word, if line.length < 16
      then (ofWords line).push word = .ok (ofWords (line ++ [word]))
      else (ofWords line).push word = .error word.capital ∧
        ofWords (line ++ [word]) = ofWords line) ∧
    (empty.pushEach line).1 =
      (line.take 16).map (fun _ => none) ++ (line.drop 16).map (fun word => some word.capital) ∧
    ∀ letter : Char,
      (ofWords line).numbers letter =
        ((ofWords line).words.filter fun word => word.letter = letter.toUpper).map Word.value ∧
      (ofWords line).numbers letter = numbersIn (line.take 16) letter ∧
      (ofWords line).number? letter = ((ofWords line).numbers letter).head? ∧
      ((ofWords line).has letter = true ↔ (ofWords line).numbers letter ≠ []) ∧
      (ofWords line).lookUp letter.toLower = (ofWords line).lookUp letter ∧
      (ofWords line).lookUp letter.toUpper = (ofWords line).lookUp letter := by
  have hpushes := pushEach_eq empty line
  refine ⟨?_, congrArg Prod.snd hpushes, ofWords_words line, ofWords_length line, fun word => ?_,
    congrArg Prod.fst hpushes, fun letter => ⟨rfl, ofWords_numbers_take line letter,
      number?_eq_head? _ letter, has_iff _ letter,
      lookUp_congr _ (toUpper_toLower letter),
      lookUp_congr _ (toUpper_toUpper letter)⟩⟩
  · rw [foldl_add_eq_pushEach, hpushes]
    rfl
  · by_cases h : line.length < 16
    · rw [if_pos h]
      exact ofWords_push_of_room h word
    · rw [if_neg h]
      exact ofWords_push_of_full (Nat.not_lt.mp h) word

/-- A letter beyond ASCII is told from its capital. -/
example : (ofWords [⟨'é', 1⟩]).has 'é' = true ∧ (ofWords [⟨'é', 1⟩]).has 'É' = false := by decide

end Instruction

end Toolpath
