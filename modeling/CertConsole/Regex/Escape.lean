import CertConsole.Regex.Reader
import CertConsole.Regex.Syntax

/-!
# Escapes

A backslash and what follows it: characters by their number or their name, classes, assertions, and
signs that would mean something else without it.
-/
namespace CertConsole.Regex

open Reader

/-- A digit in base 16. -/
def isHexDigit (char : Char) : Bool :=
  char.isDigit || ('a' ≤ char && char ≤ 'f') || ('A' ≤ char && char ≤ 'F')

/-- The value of a digit in base 16. -/
def hexValue (char : Char) : Nat :=
  if char.isDigit then char.toNat - '0'.toNat
  else if 'a' ≤ char then char.toNat - 'a'.toNat + 10
  else char.toNat - 'A'.toNat + 10

/-- The character with a number in base 16, if there is one. -/
def charOfHex? (digits : List Char) : Option Char :=
  let code := digits.foldl (fun code digit => code * 16 + hexValue digit) 0
  if code.isValidChar then some (Char.ofNat code) else none

/-- The opening and the closing brace. -/
def braces : Char × Char := ('\x7b', '\x7d')

/-- The digits of a fixed count. -/
def hexDigits : Nat → Reader (List Char)
  | 0 => return []
  | count + 1 => do
    match ← peek? with
    | none => refuse .escapeUnexpectedEnd (.point (← place))
    | some char =>
      if isHexDigit char then
        let _ ← advance
        return char :: (← hexDigits count)
      else refuse .escapeHexInvalidDigit (← nextSpan)

/-- A character by a number of a fixed count of digits. -/
def fixedCode (count : Nat) : Reader Char := do
  let first ← place
  let digits ← hexDigits count
  match charOfHex? digits with
  | some char => return char
  | none => refuse .escapeHexInvalid (← since first)

/-- A character by a number in braces. -/
def bracedCode : Reader Char := do
  let brace ← place
  let first := (← nextSpan).past
  let _ ← advance
  let digits ← run isHexDigit
  match ← peek? with
  | none => refuse .escapeUnexpectedEnd (← since brace)
  | some char =>
    if char != braces.2 then refuse .escapeHexInvalidDigit (← nextSpan)
    let digitsSpan ← since first
    let _ ← advance
    if digits.isEmpty then refuse .escapeHexEmpty (← since brace)
    match charOfHex? digits with
    | some char => return char
    | none => refuse .escapeHexInvalid digitsSpan

/-- A character by its number. The letter before tells how many digits there are without braces. -/
def hexCode (backslash : Place) (letter : Char) : Reader Atom := do
  if ! (← advance) then refuse .escapeUnexpectedEnd (.point (← place))
  if (← peek?) = some braces.1 then
    let char ← bracedCode
    return .literal (← since backslash) char false
  else
    let char ← fixedCode (if letter = 'x' then 2 else if letter = 'u' then 4 else 8)
    return .literal (← since backslash) char (letter == 'x')

/-- A Unicode property by its name in braces, or by one letter. -/
def property (backslash : Place) : Reader Atom := do
  if ! (← advance) then refuse .escapeUnexpectedEnd (.point (← place))
  match ← peek? with
  | some '\\' => refuse .unicodeClassInvalid (← nextSpan)
  | some letter =>
    if letter = braces.1 then
      let _ ← advance
      let name ← run (· != braces.2)
      if ← atEnd then refuse .escapeUnexpectedEnd (.point (← place))
      skip
      return .property (← since backslash) (String.ofList name)
    else
      let _ ← advance
      return .property (← since backslash) (String.ofList [letter])
  | none => refuse .escapeUnexpectedEnd (.point (← place))

/-- A sign that may have a meaning in a pattern. -/
def isSign (char : Char) : Bool :=
  "\\.+*?()|[]\x7b\x7d^$#&-~".toList.contains char

/-- An escaped character that stands for itself: a sign, or any other character of ASCII but
letters, digits and angle brackets. -/
def isEscapable (char : Char) : Bool :=
  isSign char || (char ≤ '\x7F' && ! char.isAlphanum && char != '<' && char != '>')

/-- The characters that have a letter of their own. -/
def namedChar? : Char → Option Char
  | 'a' => some '\x07'
  | 'f' => some '\x0C'
  | 't' => some '\t'
  | 'n' => some '\n'
  | 'r' => some '\r'
  | 'v' => some '\x0B'
  | _ => none

/-- The assertions that have a character of their own, but for the word boundary. -/
def namedAssertion? : Char → Option Assertion
  | 'A' => some .textStart
  | 'z' => some .textEnd
  | 'B' => some (.word .noBoundary)
  | '<' => some (.word .start)
  | '>' => some (.word .stop)
  | _ => none

/-- The classes that have a letter of their own, and whether all other characters are meant. -/
def namedClass? : Char → Option (Bool × Shorthand)
  | 'd' => some (false, .digit)
  | 's' => some (false, .space)
  | 'w' => some (false, .word)
  | 'D' => some (true, .digit)
  | 'S' => some (true, .space)
  | 'W' => some (true, .word)
  | _ => none

/-- The word assertions that have a name. -/
def wordEdge? : String → Option WordEdge
  | "start" => some .start
  | "end" => some .stop
  | "start-half" => some .startHalf
  | "end-half" => some .stopHalf
  | _ => none

/-- A character of such a name. -/
def isEdgeChar (char : Char) : Bool := char.isAlpha || char == '-'

/-- What stands in braces behind the letter of a word boundary. Braces with anything but a name are
left to be read as a count. -/
def wordBoundary (backslash : Place) : Reader WordEdge := do
  if (← peek?) != some braces.1 then return .boundary
  let start ← get
  if ! (← advance) then refuse .wordBoundaryUnexpectedEnd (← since backslash)
  if ! (← peek?).any isEdgeChar then
    set start
    return .boundary
  let first ← place
  let name ← run isEdgeChar
  if (← peek?) != some braces.2 then refuse .wordBoundaryUnclosed (← since start.place)
  let span ← since first
  skip
  match wordEdge? (String.ofList name) with
  | some edge => return edge
  | none => refuse .wordBoundaryUnrecognized span

/-- A backslash and what follows it. -/
def escape : Reader Atom := do
  let backslash ← place
  skip
  match ← peek? with
  | none => refuse .escapeUnexpectedEnd (← since backslash)
  | some char =>
    if char.isDigit then refuse .backreference ⟨backslash, (← nextSpan).past⟩
    else if char = 'x' ∨ char = 'u' ∨ char = 'U' then hexCode backslash char
    else if char = 'p' ∨ char = 'P' then property backslash
    else
      skip
      let span ← since backslash
      if isEscapable char then return .literal span char false
      else if char = 'b' then
        let edge ← wordBoundary backslash
        return .assertion (← since backslash) (.word edge)
      else match namedClass? char, namedChar? char, namedAssertion? char with
        | some (negated, shorthand), _, _ => return .shorthand span negated shorthand
        | _, some char, _ => return .literal span char false
        | _, _, some assertion => return .assertion span assertion
        | _, _, _ => refuse .escapeUnrecognized span

end CertConsole.Regex
