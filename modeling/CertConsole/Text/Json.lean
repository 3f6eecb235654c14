/-!
# JSON

The JSON values that a report is written with, and their text: one member to a line, two spaces for
each level, and no character escaped but those that have to be.
-/
namespace CertConsole

/-- A JSON value. -/
inductive Json where
  | boolean (value : Bool)
  | number (value : Nat)
  | string (text : String)
  | object (members : List (String × Json))

namespace Json

/-- A character in a quoted text. -/
def escapeChar (char : Char) : List Char :=
  match char with
  | '"' => ['\\', '"']
  | '\\' => ['\\', '\\']
  | '\x08' => ['\\', 'b']
  | '\t' => ['\\', 't']
  | '\n' => ['\\', 'n']
  | '\x0C' => ['\\', 'f']
  | '\r' => ['\\', 'r']
  | _ =>
    if char < ' ' then
      ['\\', 'u', '0', '0', (char.toNat / 16).digitChar, (char.toNat % 16).digitChar]
    else [char]

/-- A text in quotes. -/
def quote (text : String) : String :=
  String.ofList ('"' :: text.toList.flatMap escapeChar ++ ['"'])

/-- The start of a line at a level. -/
def indent (level : Nat) : String := "\n" ++ String.ofList (List.replicate (2 * level) ' ')

mutual

/-- The text of a value that stands at a level. -/
def renderAt (level : Nat) : Json → String
  | boolean value => if value then "true" else "false"
  | number value => toString value
  | string text => quote text
  | object [] => "\x7b\x7d"
  | object ((name, value) :: rest) =>
    "\x7b" ++ indent (level + 1) ++ quote name ++ ": " ++ renderAt (level + 1) value ++
      renderRest (level + 1) rest ++ indent level ++ "\x7d"

/-- The text of the members behind the first one. -/
def renderRest (level : Nat) : List (String × Json) → String
  | [] => ""
  | (name, value) :: rest =>
    "," ++ indent level ++ quote name ++ ": " ++ renderAt level value ++ renderRest level rest

end

/-- The text of a value. -/
def render (value : Json) : String := renderAt 0 value

end Json

end CertConsole
