import CertConsole.Toml.Reader

/-!
# Quoted strings

A string stands in double quotes, where a backslash begins an escape, or in single quotes, where
every character stands for itself. Three quotes enclose a string of several lines. In it, one or two
quotes are content, and so are up to two quotes just before the three that end it.
-/
namespace CertConsole.Toml

open Reader

/-- A character that stands for itself in a string in double quotes. -/
def isPlain (char : Char) : Bool := isText char && char != '"' && char != '\\'

/-- A character of a string in single quotes. -/
def isLiteral (char : Char) : Bool := isText char && char != '\''

/-- A character by its number, in a fixed count of digits in base 16. Surrogates are no
characters. -/
def codePoint (count : Nat) : Reader Char := do
  let digits ← (List.replicate count ()).mapM fun _ => next
  require (digits.all isHexDigit)
  let code := ofDigits 16 digits
  require (decide code.isValidChar)
  return Char.ofNat code

/-- An escape that stands for a character. -/
def escape : Reader Char := do
  expect '\\'
  match ← next with
  | 'b' => return '\x08'
  | 't' => return '\t'
  | 'n' => return '\n'
  | 'f' => return '\x0C'
  | 'r' => return '\r'
  | '"' => return '"'
  | '\\' => return '\\'
  | 'u' => codePoint 4
  | 'U' => codePoint 8
  | _ => failure

/-- A backslash at the end of a line, with the blank that follows it up to the next character. -/
def lineContinuation : Reader Unit := do
  expect '\\'
  spaces
  newline
  blankLines

/-- A piece of the content of a string in double quotes on one line. -/
def basicPiece : Reader (Option (List Char)) := do
  match ← peek? with
  | some '\\' => return some [← escape]
  | some char => if isPlain char then some <$> run isPlain else return none
  | none => return none

/-- A line end in a string of several lines is a line feed. -/
def linePiece : Reader (Option (List Char)) := do
  match ← peek? with
  | some '\n' | some '\r' =>
    newline
    return some ['\n']
  | _ => return none

/-- A piece of the content of a string of several lines in double quotes. -/
def basicLinesPiece : Reader (Option (List Char)) := do
  match ← peek? with
  | some '\\' =>
    orElse (do lineContinuation; return some []) (do return some [← escape])
  | some char => if isPlain char then some <$> run isPlain else linePiece
  | none => return none

/-- A piece of the content of a string in single quotes on one line. -/
def literalPiece : Reader (Option (List Char)) := do
  let found ← run isLiteral
  return if found.isEmpty then none else some found

/-- A piece of the content of a string of several lines in single quotes. -/
def literalLinesPiece : Reader (Option (List Char)) := do
  match ← literalPiece with
  | some found => return some found
  | none => linePiece

/-- A string on one line. -/
def quotedLine (quote : Char) (piece : Reader (Option (List Char))) : Reader String := do
  expect quote
  let pieces ← all piece
  expect quote
  return String.ofList pieces.flatten

/-- A run of quotes that is content: one or two of them, with a piece of other content behind. -/
def quotesPiece (quote : Char) (piece : Reader (Option (List Char))) :
    Reader (Option (List Char)) := fun text =>
  let count := (text.takeWhile (· == quote)).length
  if count = 0 ∨ 3 ≤ count then some (none, text)
  else do
    let (found, rest) ← piece (text.drop count)
    return (some (List.replicate count quote ++ (← found)), rest)

/-- A string of several lines. A line end right behind the opening quotes is not part of it. -/
def quotedLines (quote : Char) (piece : Reader (Option (List Char))) : Reader String := do
  word (String.ofList [quote, quote, quote])
  optional newline
  let pieces ← all do
    match ← piece with
    | some found => return some found
    | none => quotesPiece quote piece
  let quotes ← run (· == quote)
  require (3 ≤ quotes.length && quotes.length ≤ 5)
  return String.ofList (pieces.flatten ++ quotes.drop 3)

/-- A string on one line, in quotes of either kind. -/
def singleLineString : Reader String := do
  if (← peek?) = some '"' then quotedLine '"' basicPiece else quotedLine '\'' literalPiece

/-- A string of any form. -/
def quotedString : Reader String := fun text =>
  match text with
  | '"' :: '"' :: '"' :: _ => quotedLines '"' basicLinesPiece text
  | '\'' :: '\'' :: '\'' :: _ => quotedLines '\'' literalLinesPiece text
  | _ => singleLineString text

end CertConsole.Toml
