/-!
# Options

The options of the command line, with the names that they are given by and the values that they
take.
-/
namespace CertConsole

/-- An option. -/
inductive Switch where
  | baud
  | verbose
  | quiet
  | json
  | config
  | help
  | version
  deriving DecidableEq, Repr

namespace Switch

/-- All options in the order of the help text. -/
def all : List Switch := [.baud, .verbose, .quiet, .json, .config, .help, .version]

/-- The long name. -/
def long : Switch → String
  | .baud => "baud"
  | .verbose => "verbose"
  | .quiet => "quiet"
  | .json => "json"
  | .config => "config"
  | .help => "help"
  | .version => "version"

/-- The short name, if there is one. -/
def short? : Switch → Option Char
  | .baud => some 'b'
  | .verbose => some 'v'
  | .quiet => some 'q'
  | .help => some 'h'
  | .version => some 'V'
  | .json | .config => none

/-- The name of the value that an option takes, if it takes one. -/
def valueName? : Switch → Option String
  | .baud => some "BAUD"
  | .config => some "PATH"
  | .verbose | .quiet | .json | .help | .version => none

/-- The option takes a value. -/
def takesValue (switch : Switch) : Bool := switch.valueName?.isSome

/-- How messages name an option. -/
def display (switch : Switch) : String :=
  "--" ++ switch.long ++
    match switch with
    | .verbose => "..."
    | _ =>
      match switch.valueName? with
      | some name => " <" ++ name ++ ">"
      | none => ""

/-- The option with a long name. -/
def ofLong? (name : String) : Option Switch := all.find? (·.long == name)

/-- The option with a short name. -/
def ofShort? (name : Char) : Option Switch := all.find? (·.short? == some name)

end Switch

end CertConsole
