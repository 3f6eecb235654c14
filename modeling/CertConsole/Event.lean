import CertConsole.Certificate
import CertConsole.Fault
import CertConsole.Text.Duration

/-!
# Log events

Everything that is told while an upload is prepared and carried out is an event. Its level, the
part of the program that it comes from and its wording are functions of the event, so a log is data
and a filter only chooses among events.
-/
namespace CertConsole

/-- How important a log message is. -/
inductive Level where
  | error
  | warn
  | info
  | debug
  | trace
  deriving DecidableEq, Repr

namespace Level

/-- The name of a level. -/
def name : Level → String
  | .error => "ERROR"
  | .warn => "WARN"
  | .info => "INFO"
  | .debug => "DEBUG"
  | .trace => "TRACE"

/-- The rank of a level: the larger, the more detail a log that shows it has. -/
def rank : Level → Nat
  | .error => 1
  | .warn => 2
  | .info => 3
  | .debug => 4
  | .trace => 5

end Level

/-- The part of the program that an event comes from. -/
inductive Source where
  /-- The command line. -/
  | commandLine
  /-- The loading of configuration files. -/
  | configuration
  /-- The phases of an upload. -/
  | upload
  /-- The reading of console lines. -/
  | transcript
  /-- The serial port. -/
  | serial
  deriving DecidableEq, Repr

/-- The name that log filters know a part of the program by. -/
def Source.name : Source → String
  | .commandLine => "upload_cert"
  | .configuration => "upload_cert::config"
  | .upload => "certupload::uploader"
  | .transcript => "certupload::transcript"
  | .serial => "certupload::port::native"

/-- What a program can tell in its log. -/
inductive Event where
  /-- The program starts. -/
  | programStarted (verbosity : Nat)
  /-- The certificate file holds no line. -/
  | emptyCertificate (path : String)
  /-- The global configuration file was loaded. -/
  | globalConfigLoaded (path : String)
  /-- The local configuration file was loaded. -/
  | localConfigLoaded (path : String)
  /-- The configuration file that the user named was loaded. -/
  | namedConfigLoaded (path : String)
  /-- The configuration file that the user named was not loaded. -/
  | namedConfigMissing (path : String)
  /-- A configuration file could not be read. -/
  | configUnreadable (path : String) (cause : FileError)
  /-- A configuration file was read and is not one. -/
  | configMalformed (path : String)
  /-- A serial port is about to be opened. -/
  | opening (port : String) (baud : Nat) (timeout : Milliseconds)
  /-- Input that a port had received is discarded. -/
  | discardingInput (port : String)
  /-- A port was closed. -/
  | portClosed (port : String)
  /-- An opened port is about to be used for an upload. -/
  | uploadingTo (port : String)
  /-- The certificate is larger than what the device loads. -/
  | overCapacity (size : Nat)
  /-- The console is given time to come up. -/
  | settling (port : String)
  /-- A command is about to be sent. -/
  | sending (command : String)
  /-- A line was received. -/
  | received (line : String)
  /-- The device accepted the begin marker. -/
  | uploadStarted
  /-- The device refused the begin marker. -/
  | uploadRefused (line : String)
  /-- The device did not answer the begin marker. -/
  | uploadUnanswered
  /-- The certificate lines are about to be sent. -/
  | sendingLines (count : Nat)
  /-- The device confirmed that it saved the certificate. -/
  | certificateSaved
  /-- The device did not confirm that it saved the certificate. -/
  | saveUnconfirmed
  /-- The device has a CA certificate. -/
  | caPresent
  /-- The device has no CA certificate. -/
  | caAbsent
  /-- The device did not tell whether it has a CA certificate. -/
  | caUnreported
  /-- The upload succeeded. -/
  | uploadConfirmed
  /-- The upload did not succeed. -/
  | uploadUnconfirmed
  deriving DecidableEq, Repr

namespace Event

/-- The level of an event. -/
def level : Event → Level
  | programStarted _ | globalConfigLoaded _ | localConfigLoaded _ | namedConfigLoaded _
  | opening .. | portClosed _ | settling _ | sending _ => .debug
  | discardingInput _ | received _ => .trace
  | uploadingTo _ | uploadStarted | sendingLines _ | certificateSaved | caPresent
  | uploadConfirmed => .info
  | emptyCertificate _ | namedConfigMissing _ | configUnreadable .. | configMalformed _
  | overCapacity _ | saveUnconfirmed | caAbsent | caUnreported => .warn
  | uploadRefused _ | uploadUnanswered | uploadUnconfirmed => .error

/-- The part of the program that an event comes from. -/
def source : Event → Source
  | programStarted _ | emptyCertificate _ => .commandLine
  | globalConfigLoaded _ | localConfigLoaded _ | namedConfigLoaded _ | namedConfigMissing _
  | configUnreadable .. | configMalformed _ => .configuration
  | opening .. | discardingInput _ | portClosed _ => .serial
  | received _ => .transcript
  | uploadingTo _ | overCapacity _ | settling _ | sending _ | uploadStarted | uploadRefused _
  | uploadUnanswered | sendingLines _ | certificateSaved | saveUnconfirmed | caPresent | caAbsent
  | caUnreported | uploadConfirmed | uploadUnconfirmed => .upload

/-- The wording of an event. -/
def message : Event → String
  | programStarted verbosity =>
    "upload_cert v0.1.0 (verbose level: " ++ toString verbosity ++ ")"
  | emptyCertificate path => path ++ " has no certificate lines to send"
  | globalConfigLoaded path => "Loaded global config from " ++ path
  | localConfigLoaded path => "Loaded local config from " ++ path
  | namedConfigLoaded path => "Loaded config from " ++ path
  | namedConfigMissing path => "Could not load config from " ++ path ++ ", using defaults"
  | configUnreadable path cause => "Failed to read config file " ++ path ++ ": " ++ cause.message
  | configMalformed path => "Failed to parse config file " ++ path ++ ": TOML parse error"
  | opening port baud timeout =>
    "Opening " ++ port ++ " at " ++ toString baud ++ " baud (timeout " ++ timeout.text ++ ")"
  | discardingInput port => "Discarding buffered input on " ++ port
  | portClosed port => "Closed " ++ port
  | uploadingTo port => "Uploading certificate to " ++ port
  | overCapacity size =>
    "Certificate is " ++ toString size ++ " bytes; the device only loads certificates smaller than "
      ++ toString Certificate.capacity ++ " bytes"
  | settling port => "Settling console on " ++ port
  | sending command => ">> " ++ command
  | received line => "<< " ++ line
  | uploadStarted => "Upload started"
  | uploadRefused line => "Device refused upload: " ++ line
  | uploadUnanswered => "Failed to start upload (no response)"
  | sendingLines count => "Uploading " ++ toString count ++ " certificate lines"
  | certificateSaved => "Device saved the certificate"
  | saveUnconfirmed => "No save confirmation from device"
  | caPresent => "Device reports CA certificate present"
  | caAbsent => "Device reports no CA certificate"
  | caUnreported => "No certificate status from device"
  | uploadConfirmed => "Certificate upload confirmed"
  | uploadUnconfirmed => "Certificate upload not confirmed by the device"

end Event

end CertConsole
