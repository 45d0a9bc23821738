import Toolpath.Toml.Lexical

/-!
# Quoted texts

Double quotes allow escapes, single quotes take every character as it is. Three quotes open
a text that may run over several lines; up to two quotes in a row belong to such a text, also
in front of the three that close it. A line end right after the opening is not part of the
text, and a backslash at the end of a line hides it and the blank space after it.
-/

namespace Toolpath.Toml

open Reader

/-- Hexadecimal digit. -/
def isHexDigit (c : Char) : Bool :=
  c.isDigit || ('a' ≤ c && c ≤ 'f') || ('A' ≤ c && c ≤ 'F')

/-- Value of a digit of any base up to sixteen. -/
def digitValue (c : Char) : Nat :=
  if c.isDigit then c.toNat - '0'.toNat
  else if 'a' ≤ c then c.toNat - 'a'.toNat + 10
  else c.toNat - 'A'.toNat + 10

/-- Number with the given digits. -/
def digitsValue (base : Nat) (digits : List Char) : Nat :=
  digits.foldl (fun number c => number * base + digitValue c) 0

/-- Character with a code point written in so many hexadecimal digits. Code points that are
no characters are refused. -/
def codePoint (count : Nat) : Reader Char := do
  let code := digitsValue 16 (← times count isHexDigit)
  if code.isValidChar then return Char.ofNat code else failure

/-- Character that a backslash and what follows stand for. -/
def escape : Reader Char := do
  char '\\'
  match ← satisfy fun _ => true with
  | 'b' => return '\x08'
  | 't' => return '\t'
  | 'n' => return '\n'
  | 'f' => return '\x0c'
  | 'r' => return '\r'
  | '"' => return '"'
  | '\\' => return '\\'
  | 'u' => codePoint 4
  | 'U' => codePoint 8
  | _ => failure

/-- Character of a text in double quotes that stands for itself. -/
def isPlain (c : Char) : Bool := isOrdinary c && c != '"' && c != '\\'

/-- Character of a text in single quotes. -/
def isLiteral (c : Char) : Bool := isOrdinary c && c != '\''

/-- Text in double quotes on one line. -/
def basicText : Reader String := do
  char '"'
  let characters ← many (satisfy isPlain <|> escape)
  char '"'
  return String.ofList characters

/-- Text in single quotes on one line. -/
def literalText : Reader String := do
  char '\''
  let characters ← run isLiteral
  char '\''
  return String.ofList characters

/-- One or two quotes with no further quote behind them. -/
def innerQuotes (quote : Char) : Reader (List Char) := do
  let quotes ← run1 (· == quote)
  if quotes.length ≤ 2 then return quotes else failure

/-- The quotes that close a text of several lines, and at most two that still belong to it. -/
def closingQuotes (quote : Char) : Reader (List Char) := do
  let marks := [quote, quote, quote]
  let inner ← (do
    for c in quote :: quote :: marks do char c
    return [quote, quote])
    <|> (do
      for c in quote :: marks do char c
      return [quote])
    <|> (do
      for c in marks do char c
      return [])
  return inner

/-- Line end inside a text, which always counts as a line feed. -/
def innerNewline : Reader (List Char) := do
  newline
  return ['\n']

/-- Backslash at the end of a line, with the blank space after it. -/
def hiddenNewline : Reader (List Char) := do
  char '\\'
  blanks
  newline
  discard (many (discard (satisfy isBlank) <|> newline))
  return []

/-- Text of several lines from its pieces. -/
def longText (quote : Char) (piece : Reader (List Char)) : Reader String := do
  for c in [quote, quote, quote] do char c
  discard (perhaps newline)
  let pieces ← many (piece <|> innerNewline <|> innerQuotes quote)
  let last ← closingQuotes quote
  return String.ofList (pieces.flatten ++ last)

/-- Text in three double quotes. -/
def longBasicText : Reader String :=
  longText '"' (run1 isPlain <|> hiddenNewline <|> List.singleton <$> escape)

/-- Text in three single quotes. -/
def longLiteralText : Reader String := longText '\'' (run1 isLiteral)

/-- Text in quotes of any kind. -/
def quotedText : Reader String :=
  longBasicText <|> basicText <|> longLiteralText <|> literalText

end Toolpath.Toml
