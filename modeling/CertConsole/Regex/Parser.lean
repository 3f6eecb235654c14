import CertConsole.Regex.Class
import CertConsole.Text.Letter

/-!
# Reading patterns

`Node.ofText` reads a whole pattern. Groups that are open wait in a list, so a pattern is read in
one pass, and the innermost group that is not closed is the one that is told.
-/
namespace CertConsole.Regex

open Reader

/-- What was read of a pattern or a group: branches, and the parts of the last one. -/
structure Level where
  /-- Where the first branch begins. -/
  start : Place
  /-- The branches that are over, the last one first. -/
  branches : List Node := []
  /-- Where the last branch begins. -/
  branchStart : Place
  /-- The parts of the last branch, the last one first. -/
  parts : List Node := []

namespace Level

/-- Nothing was read yet. -/
def startingAt (place : Place) : Level := { start := place, branchStart := place }

/-- One more part. -/
def push (level : Level) (part : Node) : Level := { level with parts := part :: level.parts }

/-- The last branch, which is over at a place. -/
def branch (level : Level) (past : Place) : Node :=
  match level.parts with
  | [] => .empty ⟨level.branchStart, past⟩
  | [part] => part
  | parts => .concat ⟨level.branchStart, past⟩ parts.reverse

/-- All that was read, which is over at a place. -/
def node (level : Level) (past : Place) : Node :=
  match level.branches with
  | [] => level.branch past
  | branches => .alternation ⟨level.start, past⟩ (branches.reverse ++ [level.branch past])

/-- One more branch begins behind the sign between two. -/
def nextBranch (level : Level) (past next : Place) : Level :=
  { level with
    branches := level.branch past :: level.branches, branchStart := next, parts := [] }

end Level

/-- A group that is not closed yet. -/
structure OpenGroup where
  /-- Where its opening parenthesis stands. -/
  span : Span
  /-- Its flags; a group without them is remembered. -/
  flags : Option FlagList
  /-- What was read before it. -/
  outer : Level
  /-- Blanks and comments were passed over before it. -/
  extended : Bool

/-- What an opening parenthesis begins. -/
inductive Opening where
  /-- Flags for what follows. -/
  | flags (flags : FlagList)
  /-- A group. -/
  | group (flags : Option FlagList)

namespace Node

/-- A flag by its letter. -/
def flag? : Char → Option Flag
  | 'i' => some .ignoreCase
  | 'm' => some .multiLine
  | 's' => some .dotAll
  | 'U' => some .swapGreed
  | 'u' => some .unicode
  | 'R' => some .crlf
  | 'x' => some .extended
  | _ => none

/-- One flag, or the sign behind which flags are taken back. None may stand there twice. -/
def flagItem (earlier : List (Option Flag × Span)) (char : Char) :
    Reader (Option Flag × Span) := do
  let span ← nextSpan
  let flag ← if char = '-' then pure none else
    match flag? char with
    | some flag => pure (some flag)
    | none => refuse .flagUnrecognized span
  match earlier.find? (·.1 == flag) with
  | some (_, original) =>
    throw
      { mistake := if flag.isNone then .flagRepeatedNegation else .flagDuplicate
        span, earlier := some original }
  | none => return (flag, span)

/-- Flags, up to the sign that ends them. -/
def flagItems : Nat → List (Option Flag × Span) → Reader (List (Option Flag × Span))
  | 0, earlier => return earlier
  | rounds + 1, earlier => do
    match ← peek? with
    | none => refuse .flagUnexpectedEnd (.point (← place))
    | some char =>
      if char = ':' ∨ char = ')' then return earlier
      else
        let item ← flagItem earlier char
        skip
        flagItems rounds (earlier ++ [item])

/-- Flags, the last of which is no sign to take more back. -/
def flagList : Reader FlagList := do
  let items ← flagItems ((← get).rest.length + 1) []
  match items.getLast? with
  | some (none, span) => refuse .flagDanglingNegation span
  | _ => return items.map (·.1)

/-- A character of the name of a group. -/
def isNameChar (first : Bool) (char : Char) : Bool :=
  if first then char == '_' || Text.isLetter char
  else char == '_' || char == '.' || char == '[' || char == ']' || Text.isLetterOrNumber char

/-- The characters of a name, up to the bracket that ends it. -/
def nameChars : Nat → Bool → Reader (List Char)
  | 0, _ => return []
  | rounds + 1, first => do
    match ← peek? with
    | none => refuse .groupNameUnexpectedEnd (.point (← place))
    | some char =>
      if char = '>' then return []
      else if isNameChar first char then
        skip
        return char :: (← nameChars rounds false)
      else refuse .groupNameInvalid (← nextSpan)

/-- The name of a group, which no other group has. -/
def groupName : Reader Unit := do
  let start ← place
  let name ← nameChars ((← get).rest.length + 1) true
  let span ← since start
  skip
  if name.isEmpty then refuse .groupNameEmpty (.point start)
  let name := String.ofList name
  match (← get).names.lookup name with
  | some original =>
    throw { mistake := .groupNameDuplicate, span, earlier := some original }
  | none => modify fun cursor => { cursor with names := (name, span) :: cursor.names }

/-- Take what asks about the text around a place. -/
def acceptLookAround : Reader Bool := do
  if ← accept "?=" then return true
  if ← accept "?!" then return true
  if ← accept "?<=" then return true
  accept "?<!"

/-- An opening parenthesis and what belongs to it. -/
def opening : Reader Opening := do
  let parenthesis ← nextSpan
  skip
  gap
  if ← acceptLookAround then refuse .lookAround (← since parenthesis.first)
  let inner ← place
  if (← accept "?P<") || (← accept "?<") then
    groupName
    return .group none
  else if ← accept "?" then
    if ← atEnd then refuse .groupUnclosed parenthesis
    let flags ← flagList
    let ending ← peek?
    skip
    if ending = some ')' then
      if flags.isEmpty then refuse .repetitionMissing (.point inner)
      return .flags flags
    else return .group (some flags)
  else return .group none

/-- The part that a repetition repeats, and the parts before it. -/
def repeated (level : Level) : Reader (Node × Level) := do
  match level.parts with
  | [] | .empty _ :: _ | .flags .. :: _ => refuse .repetitionMissing (.point (← place))
  | part :: parts => return (part, { level with parts })

/-- The sign behind a repetition that asks for as little as possible. -/
def reluctance : Reader Unit := do let _ ← accept "?"

/-- A repetition by a sign. -/
def simpleRepetition (least : Nat) (most : Option Nat) (level : Level) : Reader Level := do
  let (part, level) ← repeated level
  skip
  reluctance
  return level.push (.repetition (← since part.span.first) least most part)

/-- A number of a count, or what is wrong with it. -/
def count : Reader (Except Fault Nat) := do
  let _ ← all do
    if (← peek?).any Text.isBlank then
      skip
      return some ()
    else return none
  let start ← place
  let digits ← run Char.isDigit
  let span ← since start
  let _ ← run Text.isBlank
  let number := digits.foldl (fun number digit => number * 10 + (digit.toNat - '0'.toNat)) 0
  if digits.isEmpty then return .error { mistake := .repetitionCountEmpty, span }
  else if UInt32.size ≤ number then return .error { mistake := .decimalInvalid, span }
  else return .ok number

/-- The least and the most count that stand in braces, up to the closing one. -/
def countRange (brace : Place) : Reader (Nat × Option Nat) := do
  if ! (← advance) then refuse .repetitionCountUnclosed (← since brace)
  let least ← count
  match ← peek? with
  | none => refuse .repetitionCountUnclosed (← since brace)
  | some ',' =>
    if ! (← advance) then refuse .repetitionCountUnclosed (← since brace)
    if (← peek?) = some braces.2 then return (← ofExcept least, none)
    else
      let least ← ofExcept least
      let most ← ofExcept (← count)
      return (least, some most)
  | some _ =>
    let number ← ofExcept least
    return (number, some number)

/-- A repetition by a count. -/
def countedRepetition (level : Level) : Reader Level := do
  let (part, level) ← repeated level
  let brace ← place
  let (least, most) ← countRange brace
  if (← peek?) != some braces.2 then refuse .repetitionCountUnclosed (← since brace)
  let _ ← advance
  reluctance
  if most.any (· < least) then refuse .repetitionCountInvalid (← since brace)
  return level.push (.repetition (← since part.span.first) least most part)

/-- A character, an escape or a sign that stands for something. -/
def single (char : Char) : Reader Node := do
  let span ← nextSpan
  if char = '\\' then return .atom (← escape)
  skip
  match char with
  | '.' => return .atom (.dot span)
  | '^' => return .atom (.assertion span .lineStart)
  | '$' => return .atom (.assertion span .lineEnd)
  | _ => return .atom (.literal span char false)

/-- What is read at the end of a pattern. -/
def close (level : Level) (groups : List OpenGroup) : Reader Node := do
  match groups with
  | [] => return level.node (← place)
  | innermost :: _ => refuse .groupUnclosed innermost.span

/-- The rest of a pattern, whose groups wait. Every round takes a character, so their number bounds
the rounds. -/
def readFrom : Nat → Level → List OpenGroup → Reader Node
  | 0, level, groups => close level groups
  | rounds + 1, level, groups => do
    gap
    match ← peek? with
    | none => close level groups
    | some '(' =>
      let span ← nextSpan
      let extended := (← get).extended
      match ← opening with
      | .flags given =>
        modify fun cursor => { cursor with extended := (given.state? .extended).getD extended }
        readFrom rounds (level.push (.flags (← since span.first) given)) groups
      | .group given =>
        let inside := (given.bind (·.state? .extended)).getD extended
        modify fun cursor => { cursor with extended := inside }
        readFrom rounds (.startingAt (← place)) (⟨span, given, level, extended⟩ :: groups)
    | some ')' =>
      match groups with
      | [] => refuse .groupUnopened (← nextSpan)
      | innermost :: groups =>
        let content := level.node (← place)
        modify fun cursor => { cursor with extended := innermost.extended }
        skip
        let closed : Node := .group (← since innermost.span.first) innermost.flags content
        readFrom rounds (innermost.outer.push closed) groups
    | some '|' =>
      let past ← place
      skip
      readFrom rounds (level.nextBranch past (← place)) groups
    | some '[' => readFrom rounds (level.push (.charClass (← ClassNode.read))) groups
    | some '?' => readFrom rounds (← simpleRepetition 0 (some 1) level) groups
    | some '*' => readFrom rounds (← simpleRepetition 0 none level) groups
    | some '+' => readFrom rounds (← simpleRepetition 1 none level) groups
    | some char =>
      if char = braces.1 then readFrom rounds (← countedRepetition level) groups
      else readFrom rounds (level.push (← single char)) groups

/-- Read a pattern. -/
def ofText (text : String) : Except Fault Node := do
  let chars := text.toList
  let node ← (readFrom (chars.length + 1) (.startingAt {}) []).run' { rest := chars }
  match node.tooDeep? depthLimit with
  | some span => throw { mistake := .nestLimitExceeded depthLimit, span }
  | none => return node

end Node

end CertConsole.Regex
