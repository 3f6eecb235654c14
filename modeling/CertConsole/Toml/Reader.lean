/-!
# Reading text from the front

A reader takes a value from the front of a text and leaves the rest, or refuses the text. The
combinators here are those that a document is read with: one character, a run of characters of one
class, and repetition.
-/
namespace CertConsole.Toml

/-- A reader of values from the front of a text. -/
abbrev Reader := StateT (List Char) Option

namespace Reader

variable {α : Type}

/-- Refuse the text unless a condition holds. -/
def require (condition : Bool) : Reader Unit := if condition then pure () else failure

/-- The next character, which stays in the text. -/
def peek? : Reader (Option Char) := fun text => some (text.head?, text)

/-- One character. -/
def next : Reader Char
  | [] => none
  | char :: rest => some (char, rest)

/-- The next character is the expected one and is taken. -/
def expect (expected : Char) : Reader Unit := do require ((← next) == expected)

/-- Take a character if it is the next one, and tell whether it was. -/
def accept (wanted : Char) : Reader Bool := fun text =>
  match text with
  | [] => some (false, [])
  | char :: rest => some (if char = wanted then (true, rest) else (false, char :: rest))

/-- The text begins with a word, which is taken. -/
def word (expected : String) : Reader Unit := expected.toList.forM expect

/-- The longest run of characters of a class. -/
def run (belongs : Char → Bool) : Reader (List Char) := fun text =>
  some (text.takeWhile belongs, text.dropWhile belongs)

/-- The longest run of characters of a class, which is not empty. -/
def run1 (belongs : Char → Bool) : Reader (List Char) := do
  let found ← run belongs
  require (! found.isEmpty)
  return found

/-- Repeat a reader until it yields nothing, at most once more than there are characters in a
bound. -/
def repeatWithin (item : Reader (Option α)) : List Char → Reader (List α)
  | [] => do
    match ← item with
    | none => return []
    | some _ => failure
  | _ :: bound => do
    match ← item with
    | none => return []
    | some first => return first :: (← repeatWithin item bound)

/-- Repeat a reader until it yields nothing. Every item takes at least one character, so the text
itself bounds the repetition. -/
def all (item : Reader (Option α)) : Reader (List α) := fun text => repeatWithin item text text

/-- Read with the first reader, or with the second one if the first one refuses. -/
def orElse (first second : Reader α) : Reader α := fun text => (first text).or (second text)

/-- Read something that may be missing. -/
def optional (item : Reader Unit) : Reader Unit := orElse item (pure ())

/-- A value together with the characters that it was read from. -/
def written (item : Reader α) : Reader (α × String) := fun text =>
  (item text).map fun (value, rest) =>
    ((value, String.ofList (text.take (text.length - rest.length))), rest)

end Reader

/-- A space or a tab. -/
def isSpace (char : Char) : Bool := char == ' ' || char == '\t'

/-- A character of a comment: a tab, or any character but the other control characters of ASCII. -/
def isText (char : Char) : Bool := char == '\t' || (' ' ≤ char && char != '\x7F')

/-- An ASCII digit. -/
def isDigit (char : Char) : Bool := '0' ≤ char && char ≤ '9'

/-- The value of a digit in any base up to 16. -/
def digitValue (char : Char) : Nat :=
  if isDigit char then char.toNat - '0'.toNat
  else if 'a' ≤ char && char ≤ 'f' then char.toNat - 'a'.toNat + 10
  else char.toNat - 'A'.toNat + 10

/-- A digit in base 16. -/
def isHexDigit (char : Char) : Bool :=
  isDigit char || ('a' ≤ char && char ≤ 'f') || ('A' ≤ char && char ≤ 'F')

/-- The number that digits stand for in a base. -/
def ofDigits (base : Nat) (digits : List Char) : Nat :=
  digits.foldl (fun number digit => number * base + digitValue digit) 0

namespace Reader

/-- Spaces and tabs. -/
def spaces : Reader Unit := do let _ ← run isSpace

/-- The end of a line: a line feed, which a carriage return may precede. -/
def newline : Reader Unit := do
  let _ ← accept '\r'
  expect '\n'

/-- A comment, up to the end of its line. -/
def comment : Reader Unit := do
  expect '#'
  let _ ← run isText

/-- A comment, if one is next. -/
def optionalComment : Reader Unit := do
  if (← peek?) = some '#' then comment

/-- The end of a line or of the document. -/
def lineEnd : Reader Unit := do
  match ← peek? with
  | none => return ()
  | some _ => newline

/-- What may follow a statement on its line. -/
def restOfLine : Reader Unit := do
  spaces
  optionalComment
  lineEnd

/-- Spaces and line ends, if any. -/
def blankLines : Reader Unit := do
  let _ ← all do
    match ← peek? with
    | some char =>
      if isSpace char then some <$> spaces
      else if char = '\n' ∨ char = '\r' then some <$> newline
      else return none
    | none => return none

/-- Spaces, line ends and comments, if any. -/
def gap : Reader Unit := do
  let _ ← all do
    match ← peek? with
    | some char =>
      if isSpace char then some <$> spaces
      else if char = '\n' ∨ char = '\r' then some <$> newline
      else if char = '#' then some <$> (do comment; lineEnd)
      else return none
    | none => return none

end Reader

end CertConsole.Toml
