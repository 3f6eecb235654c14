/-!
# Faults

The causes for which an upload cannot be carried out, and their wording. A device that stays silent
or answers in its own way is no fault: the report of the upload tells it.
-/
namespace CertConsole

/-- How an operation on the serial channel failed, as far as it matters for going on. -/
inductive ChannelError.Kind where
  /-- The operation was interrupted before it did anything. -/
  | interrupted
  /-- No data came in time. -/
  | timedOut
  /-- No data is there at the moment. -/
  | wouldBlock
  /-- The channel cannot be used. -/
  | fatal
  deriving DecidableEq, Repr

/-- A failed operation on the serial channel. -/
structure ChannelError where
  /-- What it means for going on. -/
  kind : ChannelError.Kind
  /-- The wording of the system. -/
  text : String
  deriving DecidableEq, Repr

namespace ChannelError

/-- An operation on a port after it was closed. -/
def portClosed : ChannelError := ⟨.fatal, "port closed"⟩

/-- A write took none of the bytes it was given. -/
def nothingWritten : ChannelError := ⟨.fatal, "failed to write whole buffer"⟩

/-- The error only says that no data is there. -/
def isSilence (error : ChannelError) : Bool :=
  error.kind == .timedOut || error.kind == .wouldBlock

end ChannelError

/-- Why an operation of a port failed. -/
inductive PortError where
  /-- The serial channel failed. -/
  | channel (error : ChannelError)
  /-- The driver of the port failed; the wording is its own. -/
  | driver (text : String)
  deriving DecidableEq, Repr

namespace PortError

/-- The wording of what failed. -/
def cause : PortError → String
  | .channel error => error.text
  | .driver text => text

/-- The wording of a failed operation. -/
def message : PortError → String
  | .channel error => "I/O error: " ++ error.text
  | .driver text => "Serial port error: " ++ text

end PortError

/-- Why a path leads to nothing that can be used. -/
inductive PathError where
  /-- The path leads nowhere. -/
  | notFound
  /-- The path leads to a directory. -/
  | isDirectory
  /-- The path goes through a file. -/
  | notDirectory
  /-- A part of the path, or all of it, is too long. -/
  | nameTooLong
  /-- The path has a NUL character. -/
  | nulInName
  deriving DecidableEq, Repr

/-- Why a file cannot be read as text. -/
inductive FileError where
  /-- The path does not lead to a file. -/
  | path (error : PathError)
  /-- The content is not UTF-8. -/
  | notText
  /-- Any other reason, in the words of the system. -/
  | system (text : String)
  deriving DecidableEq, Repr

/-- There is nothing at the path, as opposed to something that is not a text file. -/
def FileError.isAbsence : FileError → Bool
  | .path .isDirectory | .notText | .system _ => false
  | .path _ => true

/-- The wording of a file error, with the number of the system's error where it has one. -/
def FileError.message : FileError → String
  | .path .notFound => "No such file or directory (os error 2)"
  | .path .isDirectory => "Is a directory (os error 21)"
  | .path .notDirectory => "Not a directory (os error 20)"
  | .path .nameTooLong => "File name too long (os error 36)"
  | .path .nulInName => "file name contained an unexpected NUL byte"
  | .notText => "stream did not contain valid UTF-8"
  | .system text => text

/-- Why a path cannot be opened as a serial port. -/
inductive OpenError where
  /-- The path does not lead to a device. -/
  | path (error : PathError)
  /-- The path leads to a file that is no terminal. -/
  | notTerminal
  /-- Any other reason, in the words of the system. -/
  | system (text : String)
  deriving DecidableEq, Repr

/-- The wording of an error in opening a port. -/
def OpenError.message : OpenError → String
  | .path .notFound => "No such file or directory"
  | .path .isDirectory => "Is a directory"
  | .path .notDirectory => "Not a directory"
  | .path .nameTooLong => "File name too long"
  | .path .nulInName => "Invalid argument"
  | .notTerminal => "Not a typewriter"
  | .system text => text

/-- A setting that no upload can run with. -/
inductive ConfigFault where
  /-- A baud rate of zero. -/
  | zeroBaud
  /-- A timeout of zero. -/
  | zeroTimeout
  /-- A limit of zero reads in the begin phase. -/
  | noBeginAttempts
  /-- A limit of zero reads in the finish phase. -/
  | noEndAttempts
  /-- A limit of zero reads in the verify phase. -/
  | noStatusAttempts
  deriving DecidableEq, Repr

/-- The wording of an unusable setting. -/
def ConfigFault.message : ConfigFault → String
  | .zeroBaud => "baud rate must be greater than zero"
  | .zeroTimeout => "timeout must be greater than zero"
  | .noBeginAttempts => "begin_attempts must be at least 1"
  | .noEndAttempts => "end_attempts must be at least 1"
  | .noStatusAttempts => "status_attempts must be at least 1"

/-- Why an upload could not be carried out. -/
inductive Fault where
  /-- The port could not be opened, or failed afterwards. -/
  | port (error : PortError)
  /-- The certificate file could not be read. -/
  | certificate (path : String) (cause : FileError)
  /-- A setting is unusable. -/
  | config (cause : ConfigFault)
  deriving DecidableEq, Repr

namespace Fault

/-- The wording of a fault, without its cause when the cause is a fault of its own. -/
def message : Fault → String
  | .port error => error.message
  | .certificate path _ => "Cannot read certificate " ++ path
  | .config cause => "Configuration error: " ++ cause.message

/-- The wording of the cause, where a fault has one. -/
def cause? : Fault → Option String
  | .port error => some error.cause
  | .certificate _ cause => some cause.message
  | .config _ => none

end Fault

end CertConsole
