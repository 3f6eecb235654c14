import CertConsole.Toml.Reader

/-!
# Moments in time

A moment is a date, a time of day, or both with an optional offset from universal time. Every part
has a fixed number of digits and a range. Dates follow the Gregorian calendar, and a minute may have
a leap second.
-/
namespace CertConsole.Toml

open Reader

/-- A number of a fixed count of digits in a range. -/
def fixedNumber (count low high : Nat) : Reader Nat := do
  let digits ← (List.replicate count ()).mapM fun _ => next
  require (digits.all isDigit)
  let number := ofDigits 10 digits
  require (low ≤ number && number ≤ high)
  return number

/-- The years with a 29th of February. -/
def isLeapYear (year : Nat) : Bool := year % 4 == 0 && (year % 100 != 0 || year % 400 == 0)

/-- The number of days in a month. -/
def daysInMonth (year month : Nat) : Nat :=
  if month = 2 then (if isLeapYear year then 29 else 28)
  else if month = 4 ∨ month = 6 ∨ month = 9 ∨ month = 11 then 30
  else 31

/-- A date. -/
def date : Reader Unit := do
  let year ← fixedNumber 4 0 9999
  expect '-'
  let month ← fixedNumber 2 1 12
  expect '-'
  let _ ← fixedNumber 2 1 (daysInMonth year month)

/-- A time of day. -/
def timeOfDay : Reader Unit := do
  let _ ← fixedNumber 2 0 23
  expect ':'
  let _ ← fixedNumber 2 0 59
  expect ':'
  let _ ← fixedNumber 2 0 60
  if ← accept '.' then let _ ← run1 isDigit

/-- An offset from universal time. -/
def offset : Reader Unit := do
  match ← next with
  | 'Z' | 'z' => return ()
  | '+' | '-' =>
    let _ ← fixedNumber 2 0 23
    expect ':'
    let _ ← fixedNumber 2 0 59
  | _ => failure

/-- The time of day that follows a date. -/
def timeAfterDate : Reader Unit := do
  let separator ← next
  require (separator == 'T' || separator == 't' || separator == ' ')
  timeOfDay
  optional offset

/-- A moment. -/
def moment : Reader Unit := orElse (do date; optional timeAfterDate) timeOfDay

end CertConsole.Toml
