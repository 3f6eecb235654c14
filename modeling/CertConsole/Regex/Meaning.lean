import CertConsole.Regex.Pattern

/-!
# The meaning of a pattern's syntax

What a part of a pattern matches where some flags hold. A text is well-formed UTF-8, so a part that
could match a byte of a longer character is refused. Tables of Unicode are not at hand: what needs
one is refused too.
-/
namespace CertConsole.Regex

/-- The flags that hold at some part of a pattern. -/
structure Flags where
  /-- Letters match whatever their case. -/
  ignoreCase : Bool := false
  /-- Lines are told apart at their ends. -/
  multiLine : Bool := false
  /-- The dot matches a line feed too. -/
  dotAll : Bool := false
  /-- A carriage return may end a line. -/
  crlf : Bool := false
  /-- Characters count, not bytes. -/
  unicode : Bool := true
  deriving DecidableEq, Repr

namespace Flags

/-- The flags that hold behind those that are written. -/
def update (flags : Flags) (written : FlagList) : Flags where
  ignoreCase := (written.state? .ignoreCase).getD flags.ignoreCase
  multiLine := (written.state? .multiLine).getD flags.multiLine
  dotAll := (written.state? .dotAll).getD flags.dotAll
  crlf := (written.state? .crlf).getD flags.crlf
  unicode := (written.state? .unicode).getD flags.unicode

/-- The characters that a dot matches. -/
def dot (flags : Flags) : CharSet :=
  if flags.dotAll then CharSet.complement []
  else if flags.crlf then CharSet.complement [(0xA, 0xA), (0xD, 0xD)]
  else CharSet.complement [(0xA, 0xA)]

/-- What an assertion asks. -/
def look (flags : Flags) : Assertion → Look
  | .lineStart => if flags.multiLine then .lineStart flags.crlf else .textStart
  | .lineEnd => if flags.multiLine then .lineEnd flags.crlf else .textEnd
  | .textStart => .textStart
  | .textEnd => .textEnd
  | .word edge => .word edge flags.unicode

end Flags

/-- The members of a class with a short name, in ASCII. -/
def Shorthand.members : Shorthand → CharSet
  | digit => AsciiClass.digit.members
  | space => AsciiClass.space.members
  | word => AsciiClass.word.members

/-- The name of a property as names are compared: without an opening "is", blanks and signs between
words, and in small letters. -/
def plainName (name : String) : String :=
  let letters := name.toList
  let rest :=
    match letters with
    | first :: second :: rest =>
      if first.toLower = 'i' ∧ second.toLower = 's' then rest else letters
    | _ => letters
  String.ofList ((rest.filter fun char =>
    char ≤ '\x7F' && char != ' ' && char != '_' && char != '-').map Char.toLower)

/-- Why a property is not known. Three names are those of values of a property as well. -/
def propertyMistake (name : String) : Mistake :=
  if ["cf", "sc", "lc"].contains (plainName name) then .propertyValueNotFound
  else .propertyNotFound

namespace Atom

/-- Refuse a pattern for a part of it. -/
def refuse {α : Type} (mistake : Mistake) (span : Span) : Except Fault α := throw { mistake, span }

/-- The characters of an atom that is a class of its own. -/
def members (flags : Flags) : Atom → Except Fault CharSet
  | shorthand span negated name =>
    if flags.unicode then refuse .perlClassNotFound span
    else if negated then refuse .invalidUtf8 span
    else .ok name.members
  | property span name =>
    if flags.unicode then refuse (propertyMistake name) span else refuse .unicodeNotAllowed span
  | literal span char asByte =>
    if flags.unicode || char ≤ '\x7F' then .ok (CharSet.singleton char)
    else refuse (if asByte then .invalidUtf8 else .unicodeNotAllowed) span
  | dot span | assertion span _ => refuse .classEscapeInvalid span

/-- What an atom matches. -/
def meaning (flags : Flags) : Atom → Except Fault Pattern
  | literal span char asByte =>
    if ! flags.unicode && asByte && '\x7F' < char then refuse .invalidUtf8 span
    else if flags.ignoreCase && flags.unicode then refuse .caseUnavailable span
    else if flags.ignoreCase then .ok (.one (CharSet.singleton char).withBothCases)
    else .ok (.one (CharSet.singleton char))
  | dot span => if flags.unicode then .ok (.one flags.dot) else refuse .invalidUtf8 span
  | assertion _ asked => .ok (.look (flags.look asked))
  | other => return .one (← other.members flags)

end Atom

/-- Two sets put together. -/
def SetOperation.apply : SetOperation → CharSet → CharSet → CharSet
  | intersection => CharSet.inter
  | difference => CharSet.difference
  | symmetricDifference => CharSet.symmetricDifference

namespace ClassNode

mutual

/-- A class names characters of its own. -/
def namesChars : ClassNode → Bool
  | .empty _ => false
  | .atom _ | .range .. | .ascii .. => true
  | .bracketed _ _ content => content.namesChars
  | .union _ items => anyNamesChars items
  | .operation _ _ left right => left.namesChars || right.namesChars

/-- One of some classes names characters of its own. -/
def anyNamesChars : List ClassNode → Bool
  | [] => false
  | item :: rest => item.namesChars || anyNamesChars rest

end

/-- A set as it is where case may not matter. -/
def folded (flags : Flags) (set : CharSet) : CharSet :=
  if flags.ignoreCase && ! flags.unicode then set.withBothCases else set

/-- Refuse a class where case does not matter, unless there is nothing in it. -/
def checkCase (flags : Flags) (node : ClassNode) (span : Span) : Except Fault Unit :=
  if flags.ignoreCase && flags.unicode && node.namesChars then
    throw { mistake := .caseUnavailable, span }
  else .ok ()

/-- A set, or all other characters. -/
def orOthers (flags : Flags) (span : Span) (negated : Bool) (set : CharSet) :
    Except Fault CharSet :=
  if ! negated then .ok (folded flags set)
  else if flags.unicode then .ok set.complement
  else throw { mistake := .invalidUtf8, span }

mutual

/-- The members of a class. -/
def members (flags : Flags) : ClassNode → Except Fault CharSet
  | .empty _ => .ok []
  | .atom inner => inner.members flags
  | .range _ low high => do
    let low ← low.members flags
    let high ← high.members flags
    return [((low.head?.getD (0, 0)).1, (high.head?.getD (0, 0)).1)]
  | .ascii span negated name => do
    checkCase flags (.ascii span negated name) span
    orOthers flags span negated name.members
  | .bracketed span negated content => do
    let set ← content.members flags
    checkCase flags content span
    orOthers flags span negated set
  | .union _ items => allMembers flags items
  | .operation _ sign left right => do
    let leftSet ← left.members flags
    let rightSet ← right.members flags
    checkCase flags right right.span
    checkCase flags left left.span
    return sign.apply (folded flags leftSet) (folded flags rightSet)

/-- The members of some classes. -/
def allMembers (flags : Flags) : List ClassNode → Except Fault CharSet
  | [] => .ok []
  | item :: rest => do return (← item.members flags).union (← allMembers flags rest)

end

end ClassNode

namespace Node

mutual

/-- What a part of a pattern matches, and the flags that hold behind it. -/
def meaning (flags : Flags) : Node → Except Fault (Pattern × Flags)
  | .empty _ => .ok (.nothing, flags)
  | .flags _ written => .ok (.nothing, flags.update written)
  | .atom inner => do return (← inner.meaning flags, flags)
  | .charClass content => do return (.one (← content.members flags), flags)
  | .repetition _ least most node => do
    let (part, flags) ← node.meaning flags
    return (part.repeatedly least most, flags)
  | .group _ none node => do return (.captured (← node.meaning flags).1, flags)
  | .group _ (some written) node => do return ((← node.meaning (flags.update written)).1, flags)
  | .alternation _ branches => do
    let (patterns, flags) ← meanings flags branches
    return (.anyOf patterns, flags)
  | .concat _ parts => do
    let (patterns, flags) ← meanings flags parts
    return (.chained patterns, flags)

/-- What the parts of a pattern match, each with the flags behind the one before. -/
def meanings (flags : Flags) : List Node → Except Fault (List Pattern × Flags)
  | [] => .ok ([], flags)
  | node :: rest => do
    let (pattern, flags) ← node.meaning flags
    let (patterns, flags) ← meanings flags rest
    return (pattern :: patterns, flags)

end

end Node

end CertConsole.Regex
