/-!
# Texts of bounded size

A machine keeps messages in fixed storage. A text that does not fit its capacity, counted
in bytes of its encoding, is not cut: it is left out as a whole.
-/

namespace Toolpath

/-- A text of at most `capacity` encoded bytes. -/
structure BoundedText (capacity : Nat) where
  /-- The text itself. -/
  text : String
  /-- It fits the capacity. -/
  fits : text.utf8ByteSize ≤ capacity

namespace BoundedText

variable {capacity : Nat}

/-- No text at all. -/
def empty : BoundedText capacity := ⟨"", Nat.zero_le _⟩

/-- Keep a text that fits, and nothing of one that does not. -/
def ofString (text : String) : BoundedText capacity :=
  if h : text.utf8ByteSize ≤ capacity then ⟨text, h⟩ else empty

end BoundedText

end Toolpath
