import CertConsole.Regex.Syntax

/-!
# What patterns match

A pattern leads from places in a text to places behind them. `Pattern.reach` takes a whole set of
places to the set of places that the pattern leads to, so every alternative is followed at once, and
a repetition is over as soon as it leads nowhere new.
-/
namespace CertConsole.Regex

/-- A question about the characters around a place. -/
inductive Look where
  | textStart
  | textEnd
  /-- A line begins; a carriage return may end the line before. -/
  | lineStart (crlf : Bool)
  /-- A line ends; a carriage return may belong to its end. -/
  | lineEnd (crlf : Bool)
  /-- A word begins or ends here; words may be those of all scripts or of ASCII. -/
  | word (edge : WordEdge) (unicode : Bool)
  deriving DecidableEq, Repr

/-- A place between two characters of a text. -/
structure Gap where
  /-- The character before it. -/
  before : Option Char
  /-- The character behind it. -/
  behind : Option Char
  deriving DecidableEq, Repr

namespace Gap

/-- The places of a text, from the one behind a character on. -/
def following (before : Option Char) : List Char → List Gap
  | [] => [⟨before, none⟩]
  | char :: rest => ⟨before, some char⟩ :: following (some char) rest

/-- The places of a text. -/
def all (text : String) : List Gap := following none text.toList

/-- There is one more place than there are characters. -/
theorem length_following (before : Option Char) (text : List Char) :
    (following before text).length = text.length + 1 := by
  induction text generalizing before with
  | nil => rfl
  | cons char rest ih => simp [following, ih]

end Gap

/-- A character of a word of ASCII. -/
def isWordChar (char : Char) : Bool := char.isAlphanum || char == '_'

/-- The answer to a question about two characters, either of which may belong to a word. -/
def WordEdge.holds (edge : WordEdge) (before behind : Bool) : Bool :=
  match edge with
  | boundary => before != behind
  | noBoundary => before == behind
  | start => ! before && behind
  | stop => before && ! behind
  | startHalf => ! before
  | stopHalf => ! behind

/-- The answer to a question about a place. -/
def Look.holds (look : Look) (gap : Gap) : Bool :=
  match look with
  | textStart => gap.before.isNone
  | textEnd => gap.behind.isNone
  | lineStart false => gap.before.isNone || gap.before == some '\n'
  | lineStart true =>
    gap.before.isNone || gap.before == some '\n' ||
      (gap.before == some '\r' && gap.behind != some '\n')
  | lineEnd false => gap.behind.isNone || gap.behind == some '\n'
  | lineEnd true =>
    gap.behind.isNone || gap.behind == some '\r' ||
      (gap.behind == some '\n' && gap.before != some '\r')
  | word edge _ => edge.holds (gap.before.any isWordChar) (gap.behind.any isWordChar)

/-- What a pattern asks for. -/
inductive Pattern where
  /-- Nothing. -/
  | nothing
  /-- One character of a set. -/
  | one (set : CharSet)
  /-- A place of some kind. -/
  | look (look : Look)
  /-- One thing behind another. -/
  | chain (first second : Pattern)
  /-- One thing or another. -/
  | either (left right : Pattern)
  /-- One thing again and again. -/
  | repeated (part : Pattern) (least : Nat) (most : Option Nat)
  /-- Something that is remembered. -/
  | captured (part : Pattern)
  deriving DecidableEq, Repr

/-- For every place of a text, whether it belongs to a set of places. -/
abbrev Places := List Bool

namespace Places

/-- The places of either set. -/
def union (left right : Places) : Places := left.zipWith (· || ·) right

/-- Take a step so often, unless it leads nowhere new before. -/
def times (step : Places → Places) : Nat → Places → Places
  | 0, here => here
  | count + 1, here =>
    let next := step here
    if next = here then here else times step count next

/-- Take a step at most so often. -/
def upTo (step : Places → Places) : Nat → Places → Places
  | 0, here => here
  | count + 1, here =>
    let next := here.union (step here)
    if next = here then here else upTo step count next

/-- The places behind one character of a set. -/
def past (gaps : List Gap) (set : CharSet) (here : Places) : Places :=
  (false :: gaps.zipWith (fun gap marked => marked && gap.behind.any set.contains) here).dropLast

/-- The places behind any number of characters of a set; the place before is told whether it
belongs to them and has such a character behind it. -/
def spread (set : CharSet) : Bool → List Gap → Places → Places
  | carried, gap :: gaps, marked :: here =>
    let marked := marked || carried
    marked :: spread set (marked && gap.behind.any set.contains) gaps here
  | _, _, _ => []

end Places

namespace Pattern

/-- The places that a pattern leads to. -/
def reach (gaps : List Gap) : Pattern → Places → Places
  | nothing, here => here
  | one set, here => here.past gaps set
  | look asked, here => gaps.zipWith (fun gap marked => marked && asked.holds gap) here
  | chain first second, here => second.reach gaps (first.reach gaps here)
  | either left right, here => (left.reach gaps here).union (right.reach gaps here)
  | repeated (one set) least none, here =>
    (Places.times (Places.past gaps set) least here).spread set false gaps
  | repeated part least most, here =>
    let begun := Places.times (part.reach gaps) least here
    begun.upTo (part.reach gaps) (most.elim gaps.length (· - least))
  | captured part, here => part.reach gaps here

/-- A pattern matches some part of a text. -/
def occursIn (pattern : Pattern) (text : String) : Bool :=
  let gaps := Gap.all text
  (pattern.reach gaps (gaps.map fun _ => true)).any id

/-- A pattern that matches no character. -/
def isEmpty : Pattern → Bool
  | nothing | look _ => true
  | one _ => false
  | chain first second => first.isEmpty && second.isEmpty
  | either left right => left.isEmpty && right.isEmpty
  | repeated part _ _ | captured part => part.isEmpty

/-- Something again and again. Once is enough where no character is matched. -/
def repeatedly (part : Pattern) (least : Nat) (most : Option Nat) : Pattern :=
  let (least, most) :=
    if part.isEmpty then (min least 1, some ((most.map (min 1)).getD 1)) else (least, most)
  match least, most with
  | 0, some 0 => nothing
  | 1, some 1 => part
  | _, _ => repeated part least most

/-- One thing behind the other. -/
def chained : List Pattern → Pattern
  | [] => nothing
  | [part] => part
  | part :: parts => chain part (chained parts)

/-- One of several things. Sets of characters make one set. -/
def anyOf : List Pattern → Pattern
  | [] => one []
  | [branch] => branch
  | branch :: branches =>
    match branch, anyOf branches with
    | one left, one right => one (left.union right)
    | branch, other => either branch other

/-- Some part of a pattern asks for words of all scripts. -/
def asksForScripts : Pattern → Bool
  | look (.word _ true) => true
  | nothing | one _ | look _ => false
  | chain first second => first.asksForScripts || second.asksForScripts
  | either left right => left.asksForScripts || right.asksForScripts
  | repeated part _ _ | captured part => part.asksForScripts

end Pattern

end CertConsole.Regex
