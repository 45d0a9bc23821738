/-!
# Readers of character lists

A reader takes some characters off the front of a list, or fails and takes nothing. Readers
are combined by `do` notation and by `<|>`, which tries its second reader where the first
one fails.
-/

namespace Toolpath.Toml

/-- Takes characters off the front of a list and gives a result, or fails. -/
abbrev Reader (β : Type) := StateT (List Char) Option β

namespace Reader

variable {β : Type}

/-- One character of a class. -/
def satisfy (accepts : Char → Bool) : Reader Char
  | [] => none
  | c :: rest => if accepts c then some (c, rest) else none

/-- One given character. -/
def char (expected : Char) : Reader Unit := discard (satisfy (· == expected))

/-- A given text. -/
def text (expected : String) : Reader Unit := expected.toList.forM char

/-- The longest run of characters of a class. -/
def run (accepts : Char → Bool) : Reader (List Char) := fun input =>
  some (input.takeWhile accepts, input.dropWhile accepts)

/-- The longest run of characters of a class, which must not be empty. -/
def run1 (accepts : Char → Bool) : Reader (List Char) := do
  let first ← satisfy accepts
  return first :: (← run accepts)

/-- Nothing is left. -/
def atEnd : Reader Unit
  | [] => some ((), [])
  | _ => none

/-- Results of a reader applied over and over, at most the given number of times. -/
def collect (item : Reader β) : Nat → List Char → List β × List Char
  | 0, input => ([], input)
  | count + 1, input =>
    match item input with
    | none => ([], input)
    | some (result, rest) =>
      let (results, rest) := collect item count rest
      (result :: results, rest)

/-- Results of a reader applied until it fails. Every item takes at least one character, so
the length of the input is a bound on their number. -/
def many (item : Reader β) : Reader (List β) := fun input =>
  some (collect item input.length input)

/-- Results of a reader with a separator between each two. -/
def separated1 (item : Reader β) (separator : Reader Unit) : Reader (List β) := do
  let first ← item
  return first :: (← many (separator *> item))

/-- Result of a reader, if it does not fail. -/
def perhaps (item : Reader β) : Reader (Option β) := some <$> item <|> pure none

/-- Exactly so many characters of a class. -/
def times (count : Nat) (accepts : Char → Bool) : Reader (List Char) :=
  (List.replicate count ()).mapM fun _ => satisfy accepts

end Reader

end Toolpath.Toml
