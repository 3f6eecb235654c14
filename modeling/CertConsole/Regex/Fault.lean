import CertConsole.Text.Lines

/-!
# Mistakes in patterns

Why a pattern cannot be read, and where the mistake is. A mistake is told with the lines of the
pattern, and marks below the part that is wrong.
-/
namespace CertConsole.Regex

/-- A place between two characters of a pattern, by the line and the column of the character behind
it. -/
structure Place where
  /-- The line, counted from one. -/
  line : Nat := 1
  /-- The column, counted from one. -/
  column : Nat := 1
  deriving DecidableEq, Repr

/-- The place behind a character. -/
def Place.after (place : Place) (char : Char) : Place :=
  if char = '\n' then ⟨place.line + 1, 1⟩ else ⟨place.line, place.column + 1⟩

/-- A part of a pattern. -/
structure Span where
  /-- Where it begins. -/
  first : Place
  /-- Where it is over. -/
  past : Place
  deriving DecidableEq, Repr

namespace Span

/-- The empty part at a place. -/
def point (place : Place) : Span := ⟨place, place⟩

/-- A part on one line. -/
def onOneLine (span : Span) : Bool := span.first.line == span.past.line

end Span

/-- What is wrong with a pattern. -/
inductive Mistake where
  | classEscapeInvalid
  | classRangeInvalid
  | classRangeLiteral
  | classUnclosed
  | decimalInvalid
  | escapeHexEmpty
  | escapeHexInvalid
  | escapeHexInvalidDigit
  | escapeUnexpectedEnd
  | escapeUnrecognized
  | flagDanglingNegation
  | flagDuplicate
  | flagRepeatedNegation
  | flagUnexpectedEnd
  | flagUnrecognized
  | groupNameDuplicate
  | groupNameEmpty
  | groupNameInvalid
  | groupNameUnexpectedEnd
  | groupUnclosed
  | groupUnopened
  | nestLimitExceeded (limit : Nat)
  | repetitionCountInvalid
  | repetitionCountEmpty
  | repetitionCountUnclosed
  | repetitionMissing
  | wordBoundaryUnclosed
  | wordBoundaryUnrecognized
  | wordBoundaryUnexpectedEnd
  | unicodeClassInvalid
  | backreference
  | lookAround
  | unicodeNotAllowed
  | invalidUtf8
  | propertyNotFound
  | propertyValueNotFound
  | perlClassNotFound
  | caseUnavailable
  deriving DecidableEq, Repr

/-- The wording of a mistake. -/
def Mistake.message : Mistake → String
  | classEscapeInvalid => "invalid escape sequence found in character class"
  | classRangeInvalid => "invalid character class range, the start must be <= the end"
  | classRangeLiteral => "invalid range boundary, must be a literal"
  | classUnclosed => "unclosed character class"
  | decimalInvalid => "decimal literal invalid"
  | escapeHexEmpty => "hexadecimal literal empty"
  | escapeHexInvalid => "hexadecimal literal is not a Unicode scalar value"
  | escapeHexInvalidDigit => "invalid hexadecimal digit"
  | escapeUnexpectedEnd => "incomplete escape sequence, reached end of pattern prematurely"
  | escapeUnrecognized => "unrecognized escape sequence"
  | flagDanglingNegation => "dangling flag negation operator"
  | flagDuplicate => "duplicate flag"
  | flagRepeatedNegation => "flag negation operator repeated"
  | flagUnexpectedEnd => "expected flag but got end of regex"
  | flagUnrecognized => "unrecognized flag"
  | groupNameDuplicate => "duplicate capture group name"
  | groupNameEmpty => "empty capture group name"
  | groupNameInvalid => "invalid capture group character"
  | groupNameUnexpectedEnd => "unclosed capture group name"
  | groupUnclosed => "unclosed group"
  | groupUnopened => "unopened group"
  | nestLimitExceeded limit =>
    "exceed the maximum number of nested parentheses/brackets (" ++ toString limit ++ ")"
  | repetitionCountInvalid =>
    "invalid repetition count range, the start must be <= the end"
  | repetitionCountEmpty => "repetition quantifier expects a valid decimal"
  | repetitionCountUnclosed => "unclosed counted repetition"
  | repetitionMissing => "repetition operator missing expression"
  | wordBoundaryUnclosed =>
    "special word boundary assertion is either unclosed or contains an invalid character"
  | wordBoundaryUnrecognized =>
    "unrecognized special word boundary assertion, valid choices are: "
      ++ "start, end, start-half or end-half"
  | wordBoundaryUnexpectedEnd =>
    "found either the beginning of a special word boundary or a bounded repetition "
      ++ "on a \\b with an opening brace, but no closing brace"
  | unicodeClassInvalid => "invalid Unicode character class"
  | backreference => "backreferences are not supported"
  | lookAround => "look-around, including look-ahead and look-behind, is not supported"
  | unicodeNotAllowed => "Unicode not allowed here"
  | invalidUtf8 => "pattern can match invalid UTF-8"
  | propertyNotFound => "Unicode property not found"
  | propertyValueNotFound => "Unicode property value not found"
  | perlClassNotFound =>
    "Unicode-aware Perl class not found (make sure the unicode-perl feature is enabled)"
  | caseUnavailable =>
    "Unicode-aware case insensitivity matching is not available "
      ++ "(make sure the unicode-case feature is enabled)"

/-- A mistake and where it is. -/
structure Fault where
  /-- What is wrong. -/
  mistake : Mistake
  /-- The part that is wrong. -/
  span : Span
  /-- The earlier part that it clashes with. -/
  earlier : Option Span := none
  deriving DecidableEq, Repr

namespace Fault

/-- Blanks. -/
def blanks (count : Nat) : String := String.ofList (List.replicate count ' ')

/-- The marks below a line: at least one for each part. -/
def marks (spans : List Span) : String :=
  spans.foldl (fun text span =>
    text ++ blanks (span.first.column - 1 - text.length)
      ++ String.ofList (List.replicate (max 1 (span.past.column - span.first.column)) '^')) ""

/-- A line of the pattern with what is written in front of it, and marks below it. -/
def noted (label line : String) (spans : List Span) : String :=
  label ++ line ++ "\n" ++
    if spans.isEmpty then "" else blanks label.length ++ marks spans ++ "\n"

/-- Where a part of several lines is. -/
def extent (span : Span) : String :=
  "on line " ++ toString span.first.line ++ " (column " ++ toString span.first.column
    ++ ") through line " ++ toString span.past.line ++ " (column "
    ++ toString (span.past.column - 1) ++ ")\n"

/-- What stands above and below a pattern of several lines. -/
def divider : String := String.ofList (List.replicate 79 '~') ++ "\n"

/-- A number with blanks in front of it. -/
def padded (width number : Nat) : String :=
  blanks (width - (toString number).length) ++ toString number

/-- How a mistake in a pattern is told. The lines of a pattern are numbered where there are
several. -/
def message (fault : Fault) (pattern : String) : String :=
  let lines := Text.lines pattern
  let spans := fault.earlier.toList ++ [fault.span]
  let marked (number : Nat) := spans.filter fun span => span.onOneLine && span.first.line == number
  let ending := "error: " ++ fault.mistake.message
  if pattern.toList.contains '\n' then
    let count := lines.length + if pattern.toList.getLast? = some '\n' then 1 else 0
    let width := (toString count).length
    let notes := lines.mapIdx fun index line =>
      noted (padded width (index + 1) ++ ": ") line (marked (index + 1))
    "regex parse error:\n" ++ divider ++ String.join notes ++ divider
      ++ String.join ((spans.filter (! ·.onOneLine)).map extent) ++ ending
  else
    "regex parse error:\n" ++ String.join (lines.map fun line => noted "    " line (marked 1))
      ++ ending

end Fault

end CertConsole.Regex
