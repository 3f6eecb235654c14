import CertConsole.Regex.CharSet
import CertConsole.Regex.Fault

/-!
# The syntax of patterns

A pattern as it is written, with the place of every part. What a part means depends on the flags
that hold where it stands.
-/
namespace CertConsole.Regex

/-- What a word assertion asks about the two characters around a place. -/
inductive WordEdge where
  /-- Exactly one of them belongs to a word. -/
  | boundary
  /-- Both or none of them belong to a word. -/
  | noBoundary
  /-- A word begins. -/
  | start
  /-- A word ends. -/
  | stop
  /-- No word comes before. -/
  | startHalf
  /-- No word comes behind. -/
  | stopHalf
  deriving DecidableEq, Repr

/-- What a pattern may ask about a place in a text. -/
inductive Assertion where
  | lineStart
  | lineEnd
  | textStart
  | textEnd
  | word (edge : WordEdge)
  deriving DecidableEq, Repr

/-- A class with a short name of its own. -/
inductive Shorthand where
  | digit
  | space
  | word
  deriving DecidableEq, Repr

/-- The smallest parts of a pattern. -/
inductive Atom where
  /-- A character; it may have been written as a byte, by two digits in base 16. -/
  | literal (span : Span) (char : Char) (asByte : Bool)
  /-- Any character. -/
  | dot (span : Span)
  /-- A question about a place. -/
  | assertion (span : Span) (assertion : Assertion)
  /-- A class with a short name. -/
  | shorthand (span : Span) (negated : Bool) (shorthand : Shorthand)
  /-- The characters with a Unicode property. -/
  | property (span : Span) (name : String)
  deriving DecidableEq, Repr

/-- Where an atom stands. -/
def Atom.span : Atom → Span
  | literal span .. | dot span | assertion span _ | shorthand span .. | property span _ => span

/-- A flag that changes what a pattern means. -/
inductive Flag where
  | ignoreCase
  | multiLine
  | dotAll
  | swapGreed
  | unicode
  | crlf
  | extended
  deriving DecidableEq, Repr

/-- Flags as they are written: flags, and a sign behind which they are taken back. -/
abbrev FlagList := List (Option Flag)

/-- What flags say about one of them. -/
def FlagList.state? (flags : FlagList) (flag : Flag) : Option Bool :=
  if flags.contains (some flag) then
    some (! (flags.takeWhile (· != some flag)).contains none)
  else none

/-- How two sets of characters are put together. -/
inductive SetOperation where
  | intersection
  | difference
  | symmetricDifference
  deriving DecidableEq, Repr

/-- A class in brackets, or a part of one. -/
inductive ClassNode where
  | empty (span : Span)
  | atom (atom : Atom)
  | range (span : Span) (low high : Atom)
  | ascii (span : Span) (negated : Bool) (members : AsciiClass)
  | bracketed (span : Span) (negated : Bool) (content : ClassNode)
  | union (span : Span) (items : List ClassNode)
  | operation (span : Span) (operation : SetOperation) (left right : ClassNode)
  deriving Repr

/-- Where a class stands. -/
def ClassNode.span : ClassNode → Span
  | empty span | range span .. | ascii span .. | bracketed span .. | union span _
  | operation span .. => span
  | atom inner => inner.span

/-- A pattern, or a part of one. -/
inductive Node where
  | empty (span : Span)
  | flags (span : Span) (flags : FlagList)
  | atom (atom : Atom)
  | charClass (content : ClassNode)
  | repetition (span : Span) (least : Nat) (most : Option Nat) (node : Node)
  /-- A group; one without flags is remembered. -/
  | group (span : Span) (flags : Option FlagList) (node : Node)
  | alternation (span : Span) (branches : List Node)
  | concat (span : Span) (parts : List Node)
  deriving Repr

namespace Node

/-- Where a part of a pattern stands. -/
def span : Node → Span
  | empty span | flags span _ | repetition span .. | group span .. | alternation span _
  | concat span _ => span
  | atom inner => inner.span
  | charClass content => content.span

/-- The most levels of parts in parts. -/
def depthLimit : Nat := 250

end Node

mutual

/-- The first part of a class that stands too deep, where so many more levels may follow. -/
def ClassNode.tooDeep? : Nat → ClassNode → Option Span
  | 0, .bracketed span .. | 0, .union span _ | 0, .operation span .. => some span
  | depth + 1, .bracketed _ _ content => content.tooDeep? depth
  | depth + 1, .union _ items => ClassNode.anyTooDeep? depth items
  | depth + 1, .operation _ _ left right =>
    (left.tooDeep? depth).or (right.tooDeep? depth)
  | _, _ => none

/-- The first part of some classes that stands too deep. -/
def ClassNode.anyTooDeep? : Nat → List ClassNode → Option Span
  | _, [] => none
  | depth, item :: rest => (item.tooDeep? depth).or (ClassNode.anyTooDeep? depth rest)

end

mutual

/-- The first part that stands too deep, where so many more levels may follow. -/
def Node.tooDeep? : Nat → Node → Option Span
  | depth, .charClass content => content.tooDeep? depth
  | 0, .repetition span .. | 0, .group span .. | 0, .alternation span _ | 0, .concat span _ =>
    some span
  | depth + 1, .repetition _ _ _ node => node.tooDeep? depth
  | depth + 1, .group _ _ node => node.tooDeep? depth
  | depth + 1, .alternation _ branches => Node.anyTooDeep? depth branches
  | depth + 1, .concat _ parts => Node.anyTooDeep? depth parts
  | _, _ => none

/-- The first part of some parts that stands too deep. -/
def Node.anyTooDeep? : Nat → List Node → Option Span
  | _, [] => none
  | depth, node :: rest => (node.tooDeep? depth).or (Node.anyTooDeep? depth rest)

end

end CertConsole.Regex
