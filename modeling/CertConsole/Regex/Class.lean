import CertConsole.Regex.Escape

/-!
# Classes in brackets

A class lists characters, ranges, named classes and classes in brackets. Two classes are put
together by an operator between them; operators group to the left.
-/
namespace CertConsole.Regex

open Reader

/-- The items read so far of one class, the last one first. -/
structure ClassItems where
  /-- Where they stand. -/
  span : Span
  /-- The items. -/
  items : List ClassNode := []

namespace ClassItems

/-- One more item. -/
def push (earlier : ClassItems) (item : ClassNode) : ClassItems where
  span := ⟨if earlier.items.isEmpty then item.span.first else earlier.span.first, item.span.past⟩
  items := item :: earlier.items

/-- The class that the items make. -/
def node (items : ClassItems) : ClassNode :=
  match items.items with
  | [] => .empty items.span
  | [item] => item
  | several => .union items.span several.reverse

end ClassItems

/-- What waits for the class that is being read. -/
inductive ClassFrame where
  /-- An opening bracket: the items around it, where it stands, and whether all other characters are
  meant. -/
  | bracket (outer : ClassItems) (span : Span) (negated : Bool)
  /-- An operator and what stands before it. -/
  | operator (operation : SetOperation) (left : ClassNode)

namespace ClassNode

/-- The innermost open bracket. -/
def openSpan (place : Place) (frames : List ClassFrame) : Span :=
  (frames.findSome? fun frame =>
    match frame with
    | .bracket _ span _ => some span
    | .operator .. => none).getD (.point place)

/-- Refuse the pattern for a class that is not closed. -/
def refuseOpen {α : Type} (frames : List ClassFrame) : Reader α := do
  refuse .classUnclosed (openSpan (← place) frames)

/-- The next character, which stands for itself. -/
def verbatim (char : Char) : Reader ClassNode := return .atom (.literal (← nextSpan) char false)

/-- Minus signs at the front of a class stand for themselves. -/
def leadingMinus (bracket : Place) : Reader ClassItems := do
  let start ← place
  let signs ← all do
    if (← peek?) = some '-' then
      let sign ← verbatim '-'
      if ! (← advance) then refuse .classUnclosed (.point bracket)
      return some sign
    else return none
  return signs.foldl ClassItems.push ⟨.point start, []⟩

/-- The front of a class: the bracket, the sign for all other characters, and what stands for itself
there. -/
def opening (outer : ClassItems) : Reader (ClassFrame × ClassItems) := do
  let bracket ← place
  if ! (← advance) then refuse .classUnclosed (← since bracket)
  let negated := (← peek?) == some '^'
  if negated then
    if ! (← advance) then refuse .classUnclosed (← since bracket)
  let signs ← leadingMinus bracket
  if signs.items.isEmpty && (← peek?) == some ']' then
    let own := signs.push (← verbatim ']')
    if ! (← advance) then refuse .classUnclosed (← since bracket)
    return (.bracket outer (← since bracket) negated, own)
  else return (.bracket outer (← since bracket) negated, signs)

/-- The named class that a text opens with, and the length of what names it. -/
def named? : List Char → Option (Bool × AsciiClass × Nat)
  | '[' :: ':' :: text =>
    let negated := text.head? == some '^'
    let rest := if negated then text.tail else text
    let name := rest.takeWhile (· != ':')
    match rest.dropWhile (· != ':'), AsciiClass.ofName? (String.ofList name) with
    | ':' :: ']' :: _, some members =>
      some (negated, members, name.length + if negated then 5 else 4)
    | _, _ => none
  | _ => none

/-- A named class, if one is next. -/
def named : Reader (Option ClassNode) := do
  let first ← place
  match named? (← get).rest with
  | some (negated, members, length) =>
    skipMany length
    return some (.ascii (← since first) negated members)
  | none => return none

/-- What follows the next character and the gap behind it. A number sign opens no comment here. -/
def behindNext? : Reader (Option Char) := do
  let cursor ← get
  let rest := cursor.rest.tail
  if cursor.extended then
    match rest.dropWhile Text.isBlank with
    | '#' :: text => return ((text.dropWhile Text.isBlank).head?).or rest.head?
    | text => return text.head?.or rest.head?
  else return rest.head?

/-- A character or an escape. -/
def item (frames : List ClassFrame) : Reader Atom := do
  match ← peek? with
  | some '\\' => escape
  | some char =>
    let span ← nextSpan
    skip
    return .literal span char false
  | none => refuseOpen frames

/-- An atom that may stand in a class. -/
def ofAtom (atom : Atom) : Reader ClassNode :=
  match atom with
  | .assertion span _ | .dot span => refuse .classEscapeInvalid span
  | _ => return .atom atom

/-- An end of a range is a character. -/
def boundary : Atom → Reader Char
  | .literal _ char _ => return char
  | other => refuse .classRangeLiteral other.span

/-- An item, or a range between two. -/
def itemOrRange (frames : List ClassFrame) : Reader ClassNode := do
  let low ← item frames
  gap
  let behind ← behindNext?
  match ← peek? with
  | none => refuseOpen frames
  | some sign =>
    if sign != '-' || behind == some ']' || behind == some '-' then ofAtom low
    else
      if ! (← advance) then refuseOpen frames
      let high ← item frames
      let span : Span := ⟨low.span.first, high.span.past⟩
      let lowChar ← boundary low
      let highChar ← boundary high
      if highChar < lowChar then refuse .classRangeInvalid span
      return .range span low high

/-- What an operator that waits and the class behind it make. -/
def settle (frames : List ClassFrame) (right : ClassNode) : List ClassFrame × ClassNode :=
  match frames with
  | .operator sign left :: frames =>
    (frames, .operation ⟨left.span.first, right.span.past⟩ sign left right)
  | frames => (frames, right)

/-- An operator between classes. -/
def operator? (first : Char) (second : Option Char) : Option SetOperation :=
  if second = some first then
    match first with
    | '&' => some .intersection
    | '-' => some .difference
    | '~' => some .symmetricDifference
    | _ => none
  else none

/-- The rest of a class, whose brackets and operators wait. Every round takes a character, so their
number bounds the rounds. -/
def readFrom : Nat → List ClassFrame → ClassItems → Reader ClassNode
  | 0, frames, _ => refuseOpen frames
  | rounds + 1, frames, items => do
    gap
    match ← peek? with
    | none => refuseOpen frames
    | some '[' =>
      match ← named with
      | some members => readFrom rounds frames (items.push members)
      | none =>
        let (frame, inner) ← opening items
        readFrom rounds (frame :: frames) inner
    | some ']' =>
      let (frames, content) := settle frames items.node
      skip
      match frames with
      | .bracket outer span negated :: frames =>
        let closed : ClassNode := .bracketed (← since span.first) negated content
        if frames.isEmpty then return closed
        else readFrom rounds frames (outer.push closed)
      | _ => return content
    | some char =>
      match operator? char (← peekSecond?) with
      | some sign =>
        skipMany 2
        let (frames, left) := settle frames items.node
        readFrom rounds (.operator sign left :: frames) ⟨.point (← place), []⟩
      | none => readFrom rounds frames (items.push (← itemOrRange frames))

/-- A class in brackets. -/
def read : Reader ClassNode := do
  let rounds := (← get).rest.length
  let (frame, items) ← opening ⟨.point (← place), []⟩
  readFrom rounds [frame] items

end ClassNode

end CertConsole.Regex
