import CertConsole.Event
import CertConsole.Regex.Compile
import CertConsole.Text.Blank

/-!
# Log filters

A filter says up to which level each part of the program tells its events. It is made of rules for
parts whose names begin in some way, and of one for all others; the longest rule that fits decides.
A filter is written as rules with commas between them, and a slash may lead to a regular expression
that has to match some part of a message.
-/
namespace CertConsole

/-- Up to which level events are told; there is none where no event is. -/
abbrev Verbosity := Option Level

/-- A verbosity by its name, whatever the case of its letters. -/
def verbosity? (name : String) : Option Verbosity :=
  match name.toLower with
  | "off" => some none
  | "error" => some (some .error)
  | "warn" => some (some .warn)
  | "info" => some (some .info)
  | "debug" => some (some .debug)
  | "trace" => some (some .trace)
  | _ => none

/-- The events of a level are told. -/
def Verbosity.shows (verbosity : Verbosity) (level : Level) : Bool :=
  match verbosity with
  | some most => level.rank ≤ most.rank
  | none => false

/-- A rule of a filter. -/
structure LogRule where
  /-- How the name of a part has to begin; a rule without it fits every part. -/
  part : Option String
  /-- Up to which level such a part tells its events. -/
  verbosity : Verbosity
  deriving DecidableEq, Repr

/-- A rule fits a part of the program. -/
def LogRule.fits (rule : LogRule) (source : Source) : Bool :=
  match rule.part with
  | some part => part.toList.isPrefixOf source.name.toList
  | none => true

/-- The length in bytes of what a rule asks for. -/
def LogRule.weight (rule : LogRule) : Nat := (rule.part.getD "").utf8ByteSize

/-- What decides which events are told. -/
structure LogFilter where
  /-- The rules, no two of which are for the same part. -/
  rules : List LogRule
  /-- What some part of a message has to match. -/
  pattern : Option Regex.Pattern := none
  deriving DecidableEq, Repr

namespace LogFilter

/-- A rule takes the place of an earlier one for the same part. -/
def add (rules : List LogRule) (rule : LogRule) : List LogRule :=
  if rules.any (·.part == rule.part) then
    rules.map fun earlier => if earlier.part = rule.part then rule else earlier
  else rules ++ [rule]

/-- The text without the blanks at its ends. -/
def trimmed (text : List Char) : String := String.ofList (Text.trim text)

/-- A rule as it was written, none where nothing was written, or the part of it that is wrong. -/
def ruleOf (text : String) : Except String (Option LogRule) :=
  if text = "" then .ok none
  else match text.toList.splitOnP (· == '=') with
  | [name] =>
    match verbosity? (String.ofList name) with
    | some verbosity => .ok (some ⟨none, verbosity⟩)
    | none => .ok (some ⟨some (String.ofList name), some .trace⟩)
  | [name, level] =>
    let level := trimmed level
    if level = "" then .ok (some ⟨some (String.ofList name), some .trace⟩)
    else match verbosity? level with
    | some verbosity => .ok (some ⟨some (String.ofList name), verbosity⟩)
    | none => .error level
  | _ => .error text

/-- How a wrong part of a filter is told. -/
def complaint (part : String) : String :=
  "warning: invalid logging spec '" ++ part ++ "', ignoring it"

/-- The filter that tells errors only. -/
def errorsOnly : LogFilter := { rules := [⟨none, some .error⟩] }

/-- Read the rules of a filter. -/
def readRules (text : List Char) : List LogRule × List String :=
  let written := (text.splitOnP (· == ',')).map fun rule => ruleOf (trimmed rule)
  let rules := (written.filterMap fun rule => rule.toOption.join).foldl add []
  let complaints := written.filterMap fun rule =>
    match rule with
    | .error part => some (complaint part)
    | .ok _ => none
  (if rules.isEmpty then errorsOnly.rules else rules, complaints)

/-- Read the regular expression of a filter. -/
def readPattern (text : String) : Option Regex.Pattern × List String :=
  match Regex.Pattern.ofText text with
  | .ok pattern => (some pattern, [])
  | .error refusal =>
    (none, ["warning: invalid regex filter - " ++ refusal.message text ++ ", ignoring it"])

/-- Read a filter. What is wrong with it is told and otherwise passed over. -/
def parse (text : String) : LogFilter × List String :=
  match text.toList.splitOnP (· == '/') with
  | [rules] =>
    let (rules, complaints) := readRules rules
    ({ rules }, complaints)
  | [rules, pattern] =>
    let (rules, complaints) := readRules rules
    let (pattern, further) := readPattern (String.ofList pattern)
    ({ rules, pattern }, complaints ++ further)
  | _ =>
    (errorsOnly, ["warning: invalid logging spec '" ++ text ++ "' (too many '/'s), ignoring it"])

/-- The filter that treats all parts of the program alike. -/
def upTo (level : Level) : LogFilter := { rules := [⟨none, some level⟩] }

/-- The longest rule that fits a part of the program. -/
def rule? (filter : LogFilter) (source : Source) : Option LogRule :=
  (filter.rules.filter (·.fits source)).foldl (fun best rule =>
    match best with
    | some found => if found.weight ≤ rule.weight then some rule else some found
    | none => some rule) none

/-- An event is told. -/
def shows (filter : LogFilter) (event : Event) : Bool :=
  (match filter.rule? event.source with
    | some rule => rule.verbosity.shows event.level
    | none => false) && filter.pattern.all (·.occursIn event.message)

end LogFilter

end CertConsole
