import CertConsole.Regex.Pattern

/-!
# The size of patterns

A pattern is refused where the machine that matches it would take up too much room. The machine has
a state for each byte of a character, for each set, for each choice and for each end of what is
remembered, and counted repetitions are written out. There are two machines, one for each direction
of reading; only the one that reads forward remembers.
-/
namespace CertConsole.Regex

/-- How a machine reads a text. -/
inductive Direction where
  | forward
  | backward
  deriving DecidableEq, Repr

namespace Size

/-- The most bytes that a machine may take up. -/
def limit : Nat := 10485760

/-- The bytes of a state. -/
def state : Nat := 32

/-- The bytes that a transition to a set of bytes adds to its state. -/
def transition : Nat := 8

/-- The bytes that a branch adds to the state of a choice. -/
def branch : Nat := 4

/-- The bytes of a choice between two branches. -/
def choice : Nat := state + 2 * branch

/-- What stands around every pattern: a loop over any bytes, the end of a match and, where it is
remembered, the whole match. -/
def surroundings : Direction → Nat
  | .forward => choice + (state + transition) + state + 2 * state + state
  | .backward => choice + (state + transition) + state + state

/-- The number of forms that the bytes of characters outside of ASCII have. -/
def wideForms : Nat := 8

/-- The bytes of a set. Characters outside of ASCII are told apart by seven further states when they
are read forward, and by 26 further states when they are read backward. -/
def ofSet (direction : Direction) (set : CharSet) : Nat :=
  let narrow := (set.inter [(0, 0x7F)]).length
  let wide := (set.difference [(0, 0x7F)]).length
  if wide = 0 then 2 * state + transition * narrow
  else match direction with
  | .forward =>
    2 * state + transition * (narrow + wideForms * wide) + 7 * (state + transition)
  | .backward => 2 * state + branch * (narrow + wideForms * wide) + state * (narrow + 26)

/-- The bytes of the machine for a pattern. A single character is read byte by byte. -/
def ofPattern (direction : Direction) : Pattern → Nat
  | .nothing | .look _ => state
  | .one [(low, high)] =>
    if low = high then (String.utf8EncodeChar (Char.ofNat low)).length * state
    else ofSet direction [(low, high)]
  | .one set => ofSet direction set
  | .chain first second => ofPattern direction first + ofPattern direction second
  | .either left right => choice + state + ofPattern direction left + ofPattern direction right
  | .captured part =>
    match direction with
    | .forward => 2 * state + ofPattern direction part
    | .backward => ofPattern direction part
  | .repeated part least none => choice + max 1 least * ofPattern direction part
  | .repeated part least (some most) =>
    most * ofPattern direction part + if least = most then 0 else state + (most - least) * choice

end Size

/-- The machine for a pattern takes up too much room. -/
def Pattern.exceeds (direction : Direction) (pattern : Pattern) : Bool :=
  Size.limit < Size.surroundings direction + Size.ofPattern direction pattern

end CertConsole.Regex
