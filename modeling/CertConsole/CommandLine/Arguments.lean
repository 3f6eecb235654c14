import CertConsole.CommandLine.BaudRate
import CertConsole.CommandLine.Switch
import CertConsole.Text.Plain

/-!
# Arguments

The command line names a port and a certificate file, and options around them. Arguments are judged
from left to right. A value is taken in when the argument behind it is read, so of two mistakes the
earlier one is told, unless the later one is an argument that nothing can be made of.
-/
namespace CertConsole

/-- What keeps the arguments from being carried out. -/
inductive ArgumentStop where
  /-- Help is asked for. -/
  | help
  /-- The version is asked for. -/
  | version
  /-- Nothing can be made of an argument. -/
  | unexpected (argument : String)
  /-- The speed is not one. -/
  | invalidBaud (value : String) (error : BaudError)
  /-- A value is missing or empty; the name is that of the argument. -/
  | missingValue (name : String)
  /-- An option stands there twice. -/
  | repeated (switch : Switch)
  /-- An option that takes no value has one. -/
  | unexpectedValue (value : String) (switch : Switch)
  /-- The port or the certificate file is missing. -/
  | incomplete
  deriving DecidableEq, Repr

/-- What the user gave, as messages quote it: in quotes, and between them in a style of its own. -/
def quotedInput (text : String) : String := "'" ++ Text.styled "33" text ++ "'"

/-- The message about a mistake, where it needs one besides the usage text. -/
def ArgumentStop.message? : ArgumentStop → Option String
  | help | version | incomplete => none
  | unexpected argument => some ("error: unexpected argument " ++ quotedInput argument ++ " found")
  | invalidBaud value error =>
    some ("error: invalid value " ++ quotedInput value ++ " for '" ++ Switch.baud.display ++ "': "
      ++ error.message)
  | missingValue name =>
    some ("error: a value is required for '" ++ name ++ "' but none was supplied")
  | repeated switch =>
    some ("error: the argument '" ++ switch.display ++ "' cannot be used multiple times")
  | unexpectedValue value switch =>
    some ("error: unexpected value " ++ quotedInput value ++ " for '" ++ switch.display
      ++ "' found; no more were expected")

/-- The baud rate that a text gives. -/
def takeBaud (text : String) : Except ArgumentStop Nat :=
  (BaudRate.parse text).mapError (.invalidBaud text)

/-- What is to be told about an upload. -/
structure OutputOptions where
  /-- How often more detail was asked for. -/
  verbose : Nat := 0
  /-- Only what matters is told. -/
  quiet : Bool := false
  /-- The report is wanted as JSON. -/
  json : Bool := false
  deriving DecidableEq, Repr

/-- What a command line asks for. -/
structure Arguments where
  /-- The port that the device is at. -/
  port : String
  /-- The path of the certificate file. -/
  certificate : String
  /-- The speed of the line, if it was given. -/
  baud : Option Nat := none
  /-- The path of a configuration file, if one was named. -/
  config : Option String := none
  /-- What is to be told. -/
  output : OutputOptions := {}
  deriving DecidableEq, Repr

/-- Something that was read and waits to be taken in. -/
inductive PendingArgument where
  /-- An option, and its value if that was read too. -/
  | option (switch : Switch) (value : Option String)
  /-- The port. -/
  | port (value : String)
  /-- The certificate file. -/
  | certificate (value : String)
  deriving DecidableEq, Repr

/-- What the arguments read so far say. -/
structure ArgumentState where
  /-- The port. -/
  port : Option String := none
  /-- The path of the certificate file. -/
  certificate : Option String := none
  /-- The speed of the line. -/
  baud : Option Nat := none
  /-- The path of a configuration file. -/
  config : Option String := none
  /-- What is to be told. -/
  output : OutputOptions := {}
  /-- What was read last and waits to be taken in. -/
  pending : Option PendingArgument := none
  /-- How many arguments that are no options were read. -/
  positionals : Nat := 0
  /-- No more options follow. -/
  optionsEnded : Bool := false
  deriving DecidableEq, Repr

namespace ArgumentState

/-- The largest count of requests for more detail. -/
def mostVerbose : Nat := 255

/-- Take in an option that takes no value. -/
def raise (state : ArgumentState) (switch : Switch) : Except ArgumentStop ArgumentState :=
  let output := state.output
  match switch with
  | .help => .error .help
  | .version => .error .version
  | .verbose =>
    .ok { state with output := { output with verbose := min mostVerbose (output.verbose + 1) } }
  | .quiet =>
    if output.quiet then .error (.repeated .quiet)
    else .ok { state with output := { output with quiet := true } }
  | .json =>
    if output.json then .error (.repeated .json)
    else .ok { state with output := { output with json := true } }
  | .baud | .config => .error (.missingValue switch.display)

/-- Take in an option with its value. -/
def give (state : ArgumentState) (switch : Switch) (value : String) :
    Except ArgumentStop ArgumentState :=
  match switch with
  | .baud =>
    if state.baud.isSome then .error (.repeated .baud)
    else do return { state with baud := some (← takeBaud value) }
  | .config =>
    if state.config.isSome then .error (.repeated .config)
    else if value = "" then .error (.missingValue switch.display)
    else .ok { state with config := some value }
  | _ => .error (.unexpectedValue value switch)

/-- Take in what is pending. -/
def settle (state : ArgumentState) : Except ArgumentStop ArgumentState :=
  let settled := { state with pending := none }
  match state.pending with
  | none => .ok settled
  | some (.option switch none) => .error (.missingValue switch.display)
  | some (.option switch (some value)) => settled.give switch value
  | some (.port value) => .ok { settled with port := some value }
  | some (.certificate value) =>
    if value = "" then .error (.missingValue "<CERT_FILE>")
    else .ok { settled with certificate := some value }

/-- Read an option by its long name, with what stands behind an equals sign. -/
def readLong (state : ArgumentState) (name : String) (attached : Option String) :
    Except ArgumentStop ArgumentState :=
  match Switch.ofLong? name, attached with
  | none, _ => .error (.unexpected ("--" ++ name))
  | some switch, some value =>
    if switch.takesValue then do (← state.settle).give switch value
    else .error (.unexpectedValue value switch)
  | some switch, none =>
    if switch.takesValue then do
      return { ← state.settle with pending := some (.option switch none) }
    else do (← state.settle).raise switch

/-- Read short names behind one dash. A name that takes a value has the rest of the argument for it,
less an equals sign at its front, or else the next argument. -/
def readShort (state : ArgumentState) : List Char → Except ArgumentStop ArgumentState
  | [] => .ok state
  | name :: rest =>
    match Switch.ofShort? name with
    | none => .error (.unexpected (String.ofList ['-', name]))
    | some switch =>
      if switch.takesValue then
        match rest with
        | [] => do return { ← state.settle with pending := some (.option switch none) }
        | '=' :: value => do (← state.settle).give switch (String.ofList value)
        | value => do (← state.settle).give switch (String.ofList value)
      else do readShort (← (← state.settle).raise switch) rest

/-- Read an argument that is no option. -/
def readPositional (state : ArgumentState) (argument : String) :
    Except ArgumentStop ArgumentState :=
  let read (pending : PendingArgument) : Except ArgumentStop ArgumentState := do
    return { ← state.settle with
      pending := some pending, positionals := state.positionals + 1 }
  match state.positionals with
  | 0 => read (.port argument)
  | 1 => read (.certificate argument)
  | _ => .error (.unexpected argument)

/-- Read one argument. -/
def read (state : ArgumentState) (argument : String) : Except ArgumentStop ArgumentState :=
  if state.optionsEnded then state.readPositional argument
  else match argument.toList with
  | ['-', '-'] => .ok { state with optionsEnded := true }
  | '-' :: '-' :: text =>
    let name := String.ofList (text.takeWhile (· != '='))
    match text.dropWhile (· != '=') with
    | [] => state.readLong name none
    | _ :: value => state.readLong name (some (String.ofList value))
  | '-' :: name :: names => state.readShort (name :: names)
  | _ =>
    match state.pending with
    | some (.option switch none) =>
      .ok { state with pending := some (.option switch (some argument)) }
    | _ => state.readPositional argument

/-- What was asked for, where nothing is missing. A speed from the environment counts where the
arguments have none. -/
def finish (state : ArgumentState) (environmentBaud : Option String) :
    Except ArgumentStop Arguments := do
  let baud ← match state.baud, environmentBaud with
    | some baud, _ => pure (some baud)
    | none, some text => some <$> takeBaud text
    | none, none => pure none
  match state.port, state.certificate with
  | some port, some certificate =>
    return { port, certificate, baud, config := state.config, output := state.output }
  | _, _ => .error .incomplete

end ArgumentState

/-- Read a command line. -/
def Arguments.parse (arguments : List String) (environmentBaud : Option String) :
    Except ArgumentStop Arguments := do
  let state ← arguments.foldlM ArgumentState.read {}
  (← state.settle).finish environmentBaud

end CertConsole
