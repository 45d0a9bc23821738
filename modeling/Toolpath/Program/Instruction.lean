import Toolpath.Scalar

/-!
# Instructions

An instruction is one line of a program, already split into words: a letter with a number. It
has room for sixteen words. Letters are kept as ASCII capitals, and looked up as such, so
the case of an ASCII letter never matters; letters beyond ASCII are kept as they are.
-/

namespace Toolpath

/-- A letter with a number. -/
structure Word (α : Type) where
  /-- Letter that says what the number means. -/
  letter : Char
  /-- The number. -/
  value : α
  deriving DecidableEq, Repr

/-- The word with its letter as an ASCII capital. -/
def Word.capital {α : Type} (word : Word α) : Word α := { word with letter := word.letter.toUpper }

/-- Greatest number of words of an instruction. -/
def wordLimit : Nat := 16

/-- The words of one line, in order. -/
structure Instruction (α : Type) where
  /-- The words, their letters as ASCII capitals. -/
  words : List (Word α)
  /-- There are never too many. -/
  length_le : words.length ≤ wordLimit

namespace Instruction

variable {α : Type}

/-- An instruction without words. -/
def empty : Instruction α := ⟨[], Nat.zero_le _⟩

/-- Put a word behind the others; a full instruction hands it back. -/
def push (instruction : Instruction α) (word : Word α) : Except (Word α) (Instruction α) :=
  if h : instruction.words.length < wordLimit then
    .ok ⟨instruction.words ++ [word.capital], by rw [List.length_append]; exact h⟩
  else .error word.capital

/-- Put a word behind the others; a full instruction stays as it is. -/
def add (instruction : Instruction α) (word : Word α) : Instruction α :=
  match instruction.push word with
  | .ok next => next
  | .error _ => instruction

/-- Put words behind the others until one is handed back. -/
def pushAll (instruction : Instruction α) : List (Word α) → Instruction α
  | [] => instruction
  | word :: rest =>
    match instruction.push word with
    | .ok next => next.pushAll rest
    | .error _ => instruction

/-- Instruction of the first words of a line. -/
def ofWords (words : List (Word α)) : Instruction α := empty.pushAll words

/-- Numbers of the words with a letter, in order. -/
def numbers (instruction : Instruction α) (letter : Char) : List α :=
  (instruction.words.filter fun word => word.letter == letter.toUpper).map Word.value

/-- Number of the first word with a letter. -/
def number? (instruction : Instruction α) (letter : Char) : Option α :=
  (instruction.words.find? fun word => word.letter == letter.toUpper).map Word.value

/-- The instruction has a word with a letter. -/
def has (instruction : Instruction α) (letter : Char) : Bool := (instruction.number? letter).isSome

/-- Number of words. -/
def length (instruction : Instruction α) : Nat := instruction.words.length

/-- The instruction has no words. -/
def isEmpty (instruction : Instruction α) : Bool := instruction.words.isEmpty

/-- The first number of a letter is the first of all its numbers. -/
theorem number?_eq_head? (instruction : Instruction α) (letter : Char) :
    instruction.number? letter = (instruction.numbers letter).head? := by
  rw [number?, numbers, List.head?_map, List.head?_filter]

/-- A full instruction hands a word back. -/
theorem push_of_full {instruction : Instruction α} (h : instruction.length = wordLimit)
    (word : Word α) : instruction.push word = .error word.capital := by
  rw [push, dif_neg]
  rw [← length, h]
  exact Nat.lt_irrefl _

end Instruction

end Toolpath
