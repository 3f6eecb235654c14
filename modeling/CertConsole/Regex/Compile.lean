import CertConsole.Regex.Meaning
import CertConsole.Regex.Parser
import CertConsole.Regex.Size

/-!
# Patterns from text

A text is a pattern if it can be read, if what it asks for is known, and if matching it is possible
with the room and the tables at hand.
-/
namespace CertConsole.Regex

/-- Why a text is not a pattern. -/
inductive Refusal where
  /-- There is a mistake in it. -/
  | fault (fault : Fault)
  /-- It would take up too much room. -/
  | tooBig
  /-- It asks for words of all scripts. -/
  | scripts
  deriving DecidableEq, Repr

/-- How it is told that a text is not a pattern. -/
def Refusal.message (refusal : Refusal) (text : String) : String :=
  match refusal with
  | fault found => found.message text
  | tooBig => "Compiled regex exceeds size limit of " ++ toString Size.limit ++ " bytes."
  | scripts => "error building NFA"

/-- The pattern that a text is. -/
def Pattern.ofText (text : String) : Except Refusal Pattern := do
  let node ← (Node.ofText text).mapError .fault
  let (pattern, _) ← (node.meaning {}).mapError .fault
  if pattern.exceeds .forward then throw .tooBig
  if pattern.asksForScripts then throw .scripts
  if pattern.exceeds .backward then throw .tooBig
  return pattern

end CertConsole.Regex
