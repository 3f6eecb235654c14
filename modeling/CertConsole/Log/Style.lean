import CertConsole.Environment
import CertConsole.Log.Filter
import CertConsole.Text.Plain

/-!
# Log lines

How an event is written: its level in brackets, on request with the part of the program that it
comes from, and its message. The lines of a message of several lines stand below each other.
-/
namespace CertConsole

/-- What is written of the events of a run. -/
structure LogStyle where
  /-- The events that are told. -/
  filter : LogFilter
  /-- Each line names the part of the program that its event comes from. -/
  showsSource : Bool := false
  /-- The lines may hold control characters. -/
  keepsControls : Bool := false
  deriving DecidableEq, Repr

namespace LogStyle

/-- The name of a level with blanks up to the width of the longest name. -/
def paddedLevel (level : Level) : String :=
  level.name ++ String.ofList (List.replicate (5 - level.name.length) ' ')

/-- A message with its lines, but for the first, moved four places to the right. -/
def indented (message : String) : String :=
  String.ofList (message.toList.flatMap fun char =>
    if char = '\n' then ['\n', ' ', ' ', ' ', ' '] else [char])

/-- The text that tells an event, if the event is told. A control sequence in it that does not end
takes the end of the line with it. -/
def text? (style : LogStyle) (event : Event) : Option String :=
  if style.filter.shows event then
    let source := if style.showsSource then " " ++ event.source.name else ""
    let line := "[" ++ paddedLevel event.level ++ source ++ "] " ++ indented event.message ++ "\n"
    some (if style.keepsControls then line else Text.plain .suspends line)
  else none

end LogStyle

namespace Environment

/-- The terminal is one that shows colours. -/
def coloursSupported (environment : Environment) : Bool :=
  match environment.get? "TERM" with
  | some terminal => terminal != "dumb"
  | none => false

/-- Lines of the log may hold control characters. They may where a terminal shows colours, unless
the environment says otherwise. -/
def keepsControls (environment : Environment) (terminal : Bool) : Bool :=
  match environment.get? "RUST_LOG_STYLE" with
  | some "always" => true
  | some "never" => false
  | _ =>
    if (environment.nonempty? "NO_COLOR").isSome then false
    else if environment.switch? "CLICOLOR_FORCE" = some true then true
    else if environment.switch? "CLICOLOR" = some false then false
    else terminal && (environment.coloursSupported ||
      environment.switch? "CLICOLOR" = some true || (environment.get? "CI").isSome)

end Environment

end CertConsole
