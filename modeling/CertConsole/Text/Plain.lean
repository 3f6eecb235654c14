import CertConsole.Text.Utf8

/-!
# Plain text

What is left of a text where nothing may control a terminal: control sequences and control
characters are dropped, blanks that move the cursor in the usual way are kept. A control sequence
opens with an escape character, and its form says where it ends; one that does not end takes all
of the text that follows.
-/
namespace CertConsole.Text

/-- Where in a control sequence a text stands. -/
inductive ControlState where
  /-- Outside of any. -/
  | ground
  /-- Behind the escape character. -/
  | escape
  /-- Behind an escape character and characters that go with a later one. -/
  | intermediate
  /-- In a sequence that a letter or a similar sign ends. -/
  | sequence
  /-- In a command to the system, which a bell may end. -/
  | command
  /-- At the front of a string for the device. -/
  | device
  /-- Among the numbers that open a string for the device. -/
  | deviceNumbers
  /-- Behind signs that go with the one that opens a string for the device. -/
  | deviceSigns
  /-- In a string, which a terminator ends. -/
  | string
  deriving DecidableEq, Repr

/-- The control characters that are kept: tab, line feed, form feed and carriage return. -/
def isLayout (char : Char) : Bool :=
  char == '\t' || char == '\n' || char == '\x0C' || char == '\r'

/-- A character between two others. -/
def between (low high char : Char) : Bool := low ≤ char && char ≤ high

/-- The terminator of a string is a byte, and it is one also in the middle of a character. -/
def holdsTerminator (char : Char) : Bool := (Utf8.encode [char]).contains 0x9C

/-- What a layout character inside of a control sequence does to the sequence. -/
inductive LayoutEffect where
  /-- The sequence is broken off. -/
  | breaksOff
  /-- The sequence waits until what can be shown is over, and goes on behind it. A character
  outside of ASCII ends it after all. -/
  | suspends
  deriving DecidableEq, Repr

namespace ControlState

/-- Where a text stands behind an escape character and one more character. -/
def afterEscape (char : Char) : ControlState :=
  if char = '[' then .sequence
  else if char = ']' then .command
  else if char = 'P' then .device
  else if char = 'X' ∨ char = '^' ∨ char = '_' then .string
  else if between ' ' '/' char then .intermediate
  else if between '0' '~' char then .ground
  else .escape

/-- Where a text stands in a string for the device behind one more character of its front. -/
def afterDevice (state : ControlState) (char : Char) : ControlState :=
  if between ' ' '/' char then .deviceSigns
  else if between '@' '~' char then .string
  else if between '0' '?' char then
    match state with
    | .device => if char = ':' then .string else .deviceNumbers
    | .deviceNumbers => if char.isDigit || char == ';' then .deviceNumbers else .string
    | _ => .string
  else state

/-- Where a text stands behind one more character. -/
def advance (state : ControlState) (char : Char) : ControlState :=
  if char = '\x1B' then .escape
  else if char = '\x18' ∨ char = '\x1A' then .ground
  else match state with
  | .ground => .ground
  | .escape => afterEscape char
  | .intermediate => if between '0' '~' char then .ground else .intermediate
  | .sequence => if between '@' '~' char then .ground else .sequence
  | .command => if char = '\x07' then .ground else .command
  | .device | .deviceNumbers | .deviceSigns => state.afterDevice char
  | .string => if holdsTerminator char then .ground else .string

/-- A character is kept. Layout is kept in sequences too, but not in commands and strings. -/
def keeps (state : ControlState) (char : Char) : Bool :=
  match state with
  | .ground => isLayout char || (' ' ≤ char && char != '\x7F')
  | .escape | .intermediate | .sequence => isLayout char
  | _ => false

/-- What one character does: where the text stands behind it, and whether it is kept. It is told
whether the character before was kept: then what can be shown goes on, also where a sequence was
interrupted. -/
def step (layout : LayoutEffect) (state : ControlState) (showing : Bool) (char : Char) :
    ControlState × Bool :=
  if showing && ControlState.ground.keeps char then
    (if char ≤ '\x7F' then state else .ground, true)
  else
    let kept := state.keeps char
    (if kept && layout == .breaksOff then .ground else state.advance char, kept)

/-- The characters that are kept, from a state. -/
def plainFrom (layout : LayoutEffect) : ControlState → Bool → List Char → List Char
  | _, _, [] => []
  | state, showing, char :: rest =>
    let (next, kept) := state.step layout showing char
    if kept then char :: plainFrom layout next true rest else plainFrom layout next false rest

end ControlState

/-- A text without control sequences and control characters. -/
def plain (layout : LayoutEffect) (text : String) : String :=
  String.ofList (ControlState.plainFrom layout .ground false text.toList)

/-- A text in a style of its own, which ends behind it. -/
def styled (code text : String) : String := "\x1B[" ++ code ++ "m" ++ text ++ "\x1B[0m"

end CertConsole.Text
