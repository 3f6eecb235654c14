import CertConsole.Regex.Fault
import CertConsole.Text.Blank

/-!
# Reading a pattern from the front

A reader takes a part of a pattern from the front of what is left of it, or says what is wrong.
Blanks and comments count as characters unless the pattern asks for them to be passed over.
-/
namespace CertConsole.Regex

/-- What is left of a pattern, and what was seen of it that matters for the rest. -/
structure Cursor where
  /-- What is left. -/
  rest : List Char
  /-- Where it begins. -/
  place : Place := {}
  /-- Blanks and comments are passed over. -/
  extended : Bool := false
  /-- The names of groups, and where they stand. -/
  names : List (String × Span) := []
  deriving Repr

/-- A reader of parts of a pattern. -/
abbrev Reader := StateT Cursor (Except Fault)

namespace Reader

variable {α : Type}

/-- Refuse the pattern for a mistake in a part of it. -/
def refuse (mistake : Mistake) (span : Span) : Reader α := throw { mistake, span }

/-- The next character, which stays. -/
def peek? : Reader (Option Char) := return (← get).rest.head?

/-- The character behind the next one. -/
def peekSecond? : Reader (Option Char) := return (← get).rest.tail.head?

/-- Nothing is left. -/
def atEnd : Reader Bool := return (← get).rest.isEmpty

/-- Where what is left begins. -/
def place : Reader Place := return (← get).place

/-- The part from a place up to what is left. -/
def since (first : Place) : Reader Span := return ⟨first, ← place⟩

/-- The part that the next character is. -/
def nextSpan : Reader Span := do
  let cursor ← get
  match cursor.rest with
  | [] => return .point cursor.place
  | char :: _ => return ⟨cursor.place, cursor.place.after char⟩

/-- Take the next character. -/
def skip : Reader Unit := modify fun cursor =>
  match cursor.rest with
  | [] => cursor
  | char :: rest => { cursor with rest, place := cursor.place.after char }

/-- Take some characters. -/
def skipMany (count : Nat) : Reader Unit := (List.replicate count ()).forM fun _ => skip

/-- What is left behind blanks and comments. -/
def behindBlanks (inComment : Bool) (place : Place) : List Char → List Char × Place
  | [] => ([], place)
  | char :: rest =>
    if inComment then behindBlanks (char != '\n') (place.after char) rest
    else if Text.isBlank char then behindBlanks false (place.after char) rest
    else if char = '#' then behindBlanks true (place.after char) rest
    else (char :: rest, place)

/-- Take blanks and comments, where they are to be passed over. -/
def gap : Reader Unit := modify fun cursor =>
  if cursor.extended then
    let (rest, place) := behindBlanks false cursor.place cursor.rest
    { cursor with rest, place }
  else cursor

/-- Take the next character and the gap behind it; something is left then. -/
def advance : Reader Bool := do
  skip
  gap
  return ! (← atEnd)

/-- Take some text if it is next. -/
def accept (text : String) : Reader Bool := do
  if text.toList.isPrefixOf (← get).rest then
    skipMany text.toList.length
    return true
  else return false

/-- Repeat a reader until it yields nothing, at most as often as there are characters in a bound. -/
def repeatWithin (item : Reader (Option α)) : List Char → Reader (List α)
  | [] => return []
  | _ :: bound => do
    match ← item with
    | none => return []
    | some first => return first :: (← repeatWithin item bound)

/-- Repeat a reader until it yields nothing. Every item takes at least one character, so the rest of
the pattern bounds the repetition. -/
def all (item : Reader (Option α)) : Reader (List α) := do
  repeatWithin item ('\x00' :: (← get).rest)

/-- The characters of a class that come next, with the gaps between them. -/
def run (belongs : Char → Bool) : Reader (List Char) := all do
  match ← peek? with
  | some char =>
    if belongs char then
      let _ ← advance
      return some char
    else return none
  | none => return none

end Reader

end CertConsole.Regex
