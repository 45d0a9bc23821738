import Toolpath.Toml.Reader

/-!
# Blanks, line ends and comments

A line ends in a line feed, which a carriage return may precede. A comment runs to the end
of its line and holds no control character but the tab.
-/

namespace Toolpath.Toml

open Reader

/-- Space or tab. -/
def isBlank (c : Char) : Bool := c == ' ' || c == '\t'

/-- Character beyond ASCII. -/
def isNonAscii (c : Char) : Bool := c.toNat ≥ 0x80

/-- Printable character of ASCII, the space included. -/
def isPrintableAscii (c : Char) : Bool := 0x20 ≤ c.toNat && c.toNat ≤ 0x7E

/-- Character that may stand in a comment, and in a text except where it has a meaning. -/
def isOrdinary (c : Char) : Bool := c == '\t' || isPrintableAscii c || isNonAscii c

/-- Blanks, perhaps none. -/
def blanks : Reader Unit := discard (run isBlank)

/-- Line feed, perhaps after a carriage return. -/
def newline : Reader Unit := char '\n' <|> (char '\r' *> char '\n')

/-- Number sign and the rest of the line. -/
def comment : Reader Unit := char '#' *> discard (run isOrdinary)

/-- End of a line or of the document. -/
def lineEnd : Reader Unit := newline <|> atEnd

/-- What may follow a statement on its line. -/
def lineRest : Reader Unit := do
  blanks
  discard (perhaps comment)
  lineEnd

/-- Blanks, line ends and commented line ends between the items of an array. -/
def gap : Reader Unit :=
  discard (many (discard (run1 isBlank) <|> newline <|> (comment *> newline)))

end Toolpath.Toml
