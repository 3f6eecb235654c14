/-!
# Sets of characters

A set is kept as ranges of code points in ascending order that neither overlap nor touch.
-/
namespace CertConsole.Regex

/-- A set of characters: ranges of code points, each with its first and its last one. -/
abbrev CharSet := List (Nat × Nat)

namespace CharSet

/-- A character belongs to a set. -/
def contains (set : CharSet) (char : Char) : Bool :=
  set.any fun (low, high) => low ≤ char.toNat && char.toNat ≤ high

/-- Join ranges that overlap or touch, where the ranges are in the order of their first code
points. -/
def join : Nat × Nat → List (Nat × Nat) → CharSet
  | range, [] => [range]
  | (low, high), (low', high') :: rest =>
    if low' ≤ high + 1 then join (low, max high high') rest
    else (low, high) :: join (low', high') rest

/-- The set of the characters in some ranges. -/
def ofRanges (ranges : List (Nat × Nat)) : CharSet :=
  match ranges.mergeSort fun left right => left.1 ≤ right.1 with
  | [] => []
  | first :: rest => join first rest

/-- The set of the characters between two others. -/
def between (low high : Char) : CharSet := [(low.toNat, high.toNat)]

/-- The set of one character. -/
def singleton (char : Char) : CharSet := between char char

/-- The last code point. -/
def lastCode : Nat := 0x10FFFF

/-- The code points from one on that are in none of some ranges. -/
def gapsFrom (next : Nat) : CharSet → CharSet
  | [] => if next ≤ lastCode then [(next, lastCode)] else []
  | (low, high) :: rest =>
    if next < low then (next, low - 1) :: gapsFrom (high + 1) rest else gapsFrom (high + 1) rest

/-- All other characters. -/
def complement (set : CharSet) : CharSet := gapsFrom 0 set

/-- The characters of either set. -/
def union (left right : CharSet) : CharSet := ofRanges (left ++ right)

/-- The characters of both sets. -/
def inter (left right : CharSet) : CharSet := (left.complement.union right.complement).complement

/-- The characters of the first set that are not in the second one. -/
def difference (left right : CharSet) : CharSet := left.inter right.complement

/-- The characters of exactly one of two sets. -/
def symmetricDifference (left right : CharSet) : CharSet :=
  (left.union right).difference (left.inter right)

/-- A set with the letters of ASCII that its own differ from in case only. -/
def withBothCases (set : CharSet) : CharSet :=
  let upper := set.inter (between 'A' 'Z')
  let lower := set.inter (between 'a' 'z')
  let shift := 'a'.toNat - 'A'.toNat
  ofRanges (set ++ (upper.map fun (low, high) => (low + shift, high + shift)) ++
    lower.map fun (low, high) => (low - shift, high - shift))

/-- All members are ASCII. -/
def isAscii (set : CharSet) : Bool := set.all fun (_, high) => high < 0x80

end CharSet

/-- The classes of ASCII that have a name. -/
inductive AsciiClass where
  | alnum
  | alpha
  | ascii
  | blank
  | cntrl
  | digit
  | graph
  | lower
  | print
  | punct
  | space
  | upper
  | word
  | xdigit
  deriving DecidableEq, Repr

namespace AsciiClass

/-- The class with a name. -/
def ofName? : String → Option AsciiClass
  | "alnum" => some .alnum
  | "alpha" => some .alpha
  | "ascii" => some .ascii
  | "blank" => some .blank
  | "cntrl" => some .cntrl
  | "digit" => some .digit
  | "graph" => some .graph
  | "lower" => some .lower
  | "print" => some .print
  | "punct" => some .punct
  | "space" => some .space
  | "upper" => some .upper
  | "word" => some .word
  | "xdigit" => some .xdigit
  | _ => none

/-- The members of a class. -/
def members : AsciiClass → CharSet
  | alnum => [(0x30, 0x39), (0x41, 0x5A), (0x61, 0x7A)]
  | alpha => [(0x41, 0x5A), (0x61, 0x7A)]
  | ascii => [(0, 0x7F)]
  | blank => [(0x9, 0x9), (0x20, 0x20)]
  | cntrl => [(0, 0x1F), (0x7F, 0x7F)]
  | digit => [(0x30, 0x39)]
  | graph => [(0x21, 0x7E)]
  | lower => [(0x61, 0x7A)]
  | print => [(0x20, 0x7E)]
  | punct => [(0x21, 0x2F), (0x3A, 0x40), (0x5B, 0x60), (0x7B, 0x7E)]
  | space => [(0x9, 0xD), (0x20, 0x20)]
  | upper => [(0x41, 0x5A)]
  | word => [(0x30, 0x39), (0x41, 0x5A), (0x5F, 0x5F), (0x61, 0x7A)]
  | xdigit => [(0x30, 0x39), (0x41, 0x46), (0x61, 0x66)]

end AsciiClass

end CertConsole.Regex
