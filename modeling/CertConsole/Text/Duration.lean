/-!
# Durations

A duration is a number of milliseconds. Its text uses the largest unit that leaves at least one
before the point, and as few decimal places as show it exactly.
-/
namespace CertConsole

/-- A time span in milliseconds. -/
abbrev Milliseconds := Nat

/-- The decimal places of a number of thousandths, without zeros at the end. -/
def thousandths (count : Nat) : String :=
  let digits := [count / 100, count / 10 % 10, count % 10]
  let shown := (digits.reverse.dropWhile (· == 0)).reverse
  String.ofList (shown.map Nat.digitChar)

/-- A duration in seconds, or in milliseconds when it is shorter than one second. -/
def Milliseconds.text (span : Milliseconds) : String :=
  if span = 0 then "0ns"
  else if span < 1000 then toString (span : Nat) ++ "ms"
  else if span % 1000 = 0 then toString (span / 1000 : Nat) ++ "s"
  else toString (span / 1000 : Nat) ++ "." ++ thousandths (span % 1000) ++ "s"

end CertConsole
