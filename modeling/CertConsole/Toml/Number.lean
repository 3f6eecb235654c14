import CertConsole.Toml.Reader
import CertConsole.Toml.Value

/-!
# Numbers

An integer is written in base ten with an optional sign, or without a sign in another base behind
its mark, and has to fit 64 bits. A number with a point or an exponent is only judged: its form,
and that it is not too large for a double.
-/
namespace CertConsole.Toml

open Reader

/-- Digits with single underscores between them. -/
def groupedDigits (isDigit : Char → Bool) : Reader (List Char) := do
  let groups := (← run fun char => isDigit char || char == '_').splitOnP (· == '_')
  require (groups.all (! ·.isEmpty))
  return groups.flatten

/-- The integers of 64 bits. -/
def fitsInteger (value : Int) : Bool :=
  decide (Int64.minValue.toInt ≤ value ∧ value ≤ Int64.maxValue.toInt)

/-- An integer of 64 bits. -/
def integer (value : Int) : Reader Value := do
  require (fitsInteger value)
  return .integer value

/-- An integer in another base, behind its mark. -/
def markedInteger (mark : String) (base : Nat) (isDigit : Char → Bool) : Reader Value := do
  word mark
  integer (ofDigits base (← groupedDigits isDigit))

/-- A sign, if there is one; tells whether it is a minus. -/
def sign : Reader Bool := do
  if ← accept '-' then return true
  let _ ← accept '+'
  return false

/-- The least number that is too large to be rounded to a double: the middle between the largest
double and the next power of two. -/
def doubleLimit : Nat := Nat.pow 2 1024 - Nat.pow 2 970

/-- The decimal number `digits * 10 ^ exponent` is too large for a double. Far from the limit, the
count of digits decides, so that no large power is formed. -/
def exceedsDouble (digits : Nat) (exponent : Int) : Bool :=
  let magnitude := (Nat.toDigits 10 digits).length + exponent
  if digits = 0 ∨ magnitude < 300 then false
  else if 400 < magnitude then true
  else if exponent < 0 then doubleLimit * Nat.pow 10 exponent.natAbs ≤ digits
  else doubleLimit ≤ digits * Nat.pow 10 exponent.toNat

/-- The digits behind a decimal point, if there is one. -/
def fraction? : Reader (Option (List Char)) := do
  if ← accept '.' then some <$> groupedDigits isDigit else return none

/-- The exponent, if there is one. -/
def exponent? : Reader (Option Int) := do
  match ← peek? with
  | some 'e' | some 'E' =>
    let _ ← next
    let negative ← sign
    let magnitude := ofDigits 10 (← groupedDigits isDigit)
    return some (if negative then -magnitude else magnitude)
  | _ => return none

/-- A number in base ten. A negative number that is too large stands for an infinity and is
accepted. -/
def decimal : Reader Value := do
  let negative ← sign
  let whole ← groupedDigits isDigit
  require (whole.head? != some '0' || whole.length == 1)
  match ← fraction?, ← exponent? with
  | none, none =>
    let magnitude := ofDigits 10 whole
    integer (if negative then -magnitude else magnitude)
  | fraction, exponent =>
    let places := fraction.getD []
    let digits := ofDigits 10 (whole ++ places)
    let exponent := exponent.getD 0 - places.length
    require (negative || ! exceedsDouble digits exponent)
    return .real (.decimal negative digits exponent)

/-- An infinity or what is not a number. -/
def special : Reader Value := do
  let negative ← sign
  orElse (do word "inf"; return .real (.infinity negative))
    (do word "nan"; return .real .notANumber)

/-- A number. -/
def number : Reader Value := fun text =>
  match text with
  | '0' :: 'x' :: _ => markedInteger "0x" 16 isHexDigit text
  | '0' :: 'o' :: _ => markedInteger "0o" 8 (fun char => '0' ≤ char && char ≤ '7') text
  | '0' :: 'b' :: _ => markedInteger "0b" 2 (fun char => char == '0' || char == '1') text
  | _ => orElse special decimal text

end CertConsole.Toml
