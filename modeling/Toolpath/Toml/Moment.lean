import Toolpath.Toml.Number

/-!
# Dates and times

A date, a time of day, or both with an optional offset from universal time. Days exist in
their month, leap years counted, and a minute may have a sixty-first second.
-/

namespace Toolpath.Toml

open Reader

/-- Number of exactly so many decimal digits within bounds. -/
def boundedDigits (count low high : Nat) : Reader Nat := do
  let number := digitsValue 10 (← times count Char.isDigit)
  if low ≤ number && number ≤ high then return number else failure

/-- A year with a twenty-ninth of February. -/
def isLeapYear (year : Nat) : Bool := year % 4 = 0 && (year % 100 ≠ 0 || year % 400 = 0)

/-- Number of days of a month. -/
def daysOfMonth (year month : Nat) : Nat :=
  if month = 2 then if isLeapYear year then 29 else 28
  else if month = 4 || month = 6 || month = 9 || month = 11 then 30
  else 31

/-- Year, month and day. -/
def date : Reader Unit := do
  let year ← boundedDigits 4 0 9999
  char '-'
  let month ← boundedDigits 2 1 12
  char '-'
  discard (boundedDigits 2 1 (daysOfMonth year month))

/-- Hour, minute and second with an optional fraction. -/
def time : Reader Unit := do
  discard (boundedDigits 2 0 23)
  char ':'
  discard (boundedDigits 2 0 59)
  char ':'
  discard (boundedDigits 2 0 60)
  discard (perhaps (char '.' *> run1 Char.isDigit))

/-- Offset from universal time. -/
def offset : Reader Unit :=
  char 'Z' <|> char 'z' <|> do
    char '+' <|> char '-'
    discard (boundedDigits 2 0 23)
    char ':'
    discard (boundedDigits 2 0 59)

/-- Date, time, or date and time. -/
def moment : Reader Unit :=
  (do
    date
    discard (perhaps do
      char 'T' <|> char 't' <|> char ' '
      time
      discard (perhaps offset)))
  <|> time

end Toolpath.Toml
