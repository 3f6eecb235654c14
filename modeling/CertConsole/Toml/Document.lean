import CertConsole.Toml.Moment
import CertConsole.Toml.Number
import CertConsole.Toml.Quoted
import CertConsole.Toml.Table

/-!
# TOML documents

A document is a sequence of statements: headers, which say what table the next statements are about,
and assignments. `Document.read` reads the statements of a text and `Document.table` carries them
out. One wrong statement makes the whole document wrong.
-/
namespace CertConsole.Toml

open Reader

/-- A character of a key without quotes. -/
def isKeyChar (char : Char) : Bool :=
  isDigit char || ('a' ≤ char && char ≤ 'z') || ('A' ≤ char && char ≤ 'Z') || char == '_' ||
    char == '-'

/-- One part of a key. -/
def keyPart : Reader String := do
  match ← peek? with
  | some '"' | some '\'' => singleLineString
  | _ => return String.ofList (← run1 isKeyChar)

/-- The most parts of a key, and the most levels of values in values. -/
def depthLimit : Nat := 79

/-- A key: parts with dots between them, as the parts before the last one, and the last one. -/
def key : Reader (List String × String) := do
  let part : Reader String := do
    spaces
    let part ← keyPart
    spaces
    return part
  let first ← part
  let others ← all do
    if ← accept '.' then some <$> part else return none
  let parts := first :: others
  require (parts.length ≤ depthLimit)
  return (parts.dropLast, parts.getLast?.getD first)

/-- A truth value. -/
def boolean : Reader Value := do
  if (← peek?) = some 't' then
    word "true"
    return .boolean true
  else
    word "false"
    return .boolean false

/-- Something and a comma behind it, if there is one, or else the closing bracket, which stays. -/
def withComma {α : Type} (closing : Char) (item : Reader α) : Reader α := do
  let found ← item
  if ! (← accept ',') then require ((← peek?) == some closing)
  return found

/-- An array of values. A comma may follow the last one. -/
def array (value : Reader Value) : Reader Value := do
  expect '['
  let items ← all do
    gap
    if (← peek?) = some ']' then return none
    some <$> withComma ']' do
      let item ← value
      gap
      return item
  expect ']'
  return .array items

/-- A key and its value. -/
def keyValue (value : Reader Value) : Reader ((List String × String) × Value) := do
  let name ← key
  expect '='
  spaces
  let content ← value
  spaces
  return (name, content)

/-- A table in braces. No comma follows its last entry. -/
def inlineTable (value : Reader Value) : Reader Value := do
  expect '\x7b'
  spaces
  let entries ← do
    if (← peek?) = some '\x7d' then pure []
    else
      let first ← keyValue value
      let others ← all do
        if ← accept ',' then some <$> keyValue value else return none
      pure (first :: others)
  expect '\x7d'
  let table := entries.foldlM (fun table ((path, name), content) =>
    Table.assign path name content .inline table) []
  match table with
  | some table => return .table .inline table
  | none => failure

/-- A value with at most `depth` levels of values in values. -/
def value (depth : Nat) : Reader Value := do
  match ← peek? with
  | some '"' | some '\'' => .string <$> quotedString
  | some '[' =>
    match depth with
    | 0 => failure
    | depth + 1 => array (value depth)
  | some '\x7b' =>
    match depth with
    | 0 => failure
    | depth + 1 => inlineTable (value depth)
  | some 't' | some 'f' => boolean
  | _ => orElse (do return .dateTime (← written moment).2) number

/-- A statement of a document. -/
inductive Statement where
  /-- The next statements are about this table. -/
  | header (path : List String) (key : String)
  /-- The next statements are about a new table among those at this place. -/
  | element (path : List String) (key : String)
  /-- A key of the table that the last header named has this value. -/
  | assign (path : List String) (key : String) (value : Value)
  deriving Repr

/-- A header in brackets of either form. -/
def header : Reader Statement := do
  expect '['
  let doubled ← accept '['
  let (path, name) ← key
  expect ']'
  if doubled then expect ']'
  restOfLine
  return if doubled then .element path name else .header path name

/-- An assignment. -/
def assignment : Reader Statement := do
  let ((path, name), content) ← keyValue (value depthLimit)
  restOfLine
  return .assign path name content

/-- What stands on a line: nothing, a comment or a statement. -/
def line : Reader (Option Statement) := do
  spaces
  match ← peek? with
  | none => return none
  | some '\n' | some '\r' =>
    newline
    return none
  | some '#' =>
    restOfLine
    return none
  | some '[' => some <$> header
  | some _ => some <$> assignment

/-- The mark that may open a text to tell its encoding. -/
def byteOrderMark : Char := '\uFEFF'

/-- The statements of a document. -/
abbrev Document := List Statement

namespace Document

/-- Read a document. -/
def read (text : String) : Option Document := do
  let lines : Reader (List (Option Statement)) := do
    let _ ← accept byteOrderMark
    all do
      if (← peek?).isNone then return none
      some <$> line
  let (lines, rest) ← lines text.toList
  if rest.isEmpty then some (lines.filterMap id) else none

/-- The table that statements are about, by its path. -/
abbrev Place := List String

/-- Carry out one statement on the whole table, and tell what table the next ones are about. -/
def carryOut : Table × Place → Statement → Option (Table × Place)
  | (root, _), .header path key => do return (← Table.openHeader path key root, path ++ [key])
  | (root, _), .element path key => do return (← Table.openElement path key root, path ++ [key])
  | (root, place), .assign path key value => do
    let root ← Table.through .implied (Table.assign path key value) place .header root
    return (root, place)

/-- The table that a document describes. -/
def table (document : Document) : Option Table :=
  (document.foldlM carryOut ([], [])).map (·.1)

end Document

end CertConsole.Toml
