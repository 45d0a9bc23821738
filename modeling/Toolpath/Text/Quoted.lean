import Toolpath.Text.Hidden

/-!
# Quoted texts in messages

A message shows a text between double quotes. Quotes and backslashes are escaped, four
control characters have short names, and other hidden characters are written by number, so
that the text between the quotes can be told from any other.
-/

namespace Toolpath.Quoted

/-- How one character is written between the quotes. -/
def encodeChar (c : Char) : List Char :=
  if c = '\x00' then ['\\', '0']
  else if c = '\t' then ['\\', 't']
  else if c = '\r' then ['\\', 'r']
  else if c = '\n' then ['\\', 'n']
  else if c = '"' || c = '\\' then ['\\', c]
  else if isHidden c then
    '\\' :: 'u' :: '\x7b' :: Nat.toDigits 16 c.toNat ++ ['\x7d']
  else [c]

/-- A text between double quotes. -/
def encode (text : String) : String :=
  String.ofList ('"' :: text.toList.flatMap encodeChar ++ ['"'])

end Toolpath.Quoted
