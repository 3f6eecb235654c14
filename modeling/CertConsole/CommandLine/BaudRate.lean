/-!
# Baud rates as text

A baud rate is written as a decimal number with an optional sign. It is read as a number of 64 bits
first, and a number that fits has to be one of 32 bits.
-/
namespace CertConsole

/-- Why a text is not a baud rate. -/
inductive BaudError where
  /-- There is nothing in it. -/
  | empty
  /-- It has a character that is no digit. -/
  | invalidDigit
  /-- It is too large for any number. -/
  | tooLarge
  /-- It is too small for any number. -/
  | tooSmall
  /-- It is a number, but not one of 32 bits. -/
  | outOfRange (value : Int)
  deriving DecidableEq, Repr

/-- The wording of a mistake in a baud rate. -/
def BaudError.message : BaudError → String
  | empty => "cannot parse integer from empty string"
  | invalidDigit => "invalid digit found in string"
  | tooLarge => "number too large to fit in target type"
  | tooSmall => "number too small to fit in target type"
  | outOfRange value => toString value ++ " is not in 0..=4294967295"

namespace BaudRate

/-- The digits of a number of 64 bits, read from the left onto what was read before. The first
mistake decides, and a wrong digit goes before a number that it makes too large. -/
def boundedDigits (negative : Bool) : Int → List Char → Except BaudError Int
  | value, [] => .ok value
  | value, char :: rest =>
    if char < '0' ∨ '9' < char then .error .invalidDigit
    else
      let digit : Int := char.toNat - '0'.toNat
      let next := if negative then value * 10 - digit else value * 10 + digit
      if next < Int64.minValue.toInt then .error .tooSmall
      else if Int64.maxValue.toInt < next then .error .tooLarge
      else boundedDigits negative next rest

/-- A number of 64 bits. -/
def boundedInteger (text : List Char) : Except BaudError Int :=
  match text with
  | [] => .error .empty
  | ['+'] | ['-'] => .error .invalidDigit
  | '+' :: digits => boundedDigits false 0 digits
  | '-' :: digits => boundedDigits true 0 digits
  | digits => boundedDigits false 0 digits

/-- A baud rate: a number of 32 bits. -/
def parse (text : String) : Except BaudError Nat := do
  let value ← boundedInteger text.toList
  if 0 ≤ value ∧ value < UInt32.size then return value.toNat else throw (.outOfRange value)

end BaudRate

end CertConsole
