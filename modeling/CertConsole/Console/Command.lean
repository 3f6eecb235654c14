import CertConsole.Text.Utf8

/-!
# Console commands

The commands that an upload sends. A command is one line of text, ended on the wire by a carriage
return. Certificate content and the two markers share one setting; what follows the name of the
setting tells them apart.
-/
namespace CertConsole

/-- A command for the device console. -/
inductive Command where
  /-- The begin marker opens the transfer. -/
  | begin
  /-- One line of certificate content. -/
  | line (text : String)
  /-- The end marker asks the device to keep what it received. -/
  | finish
  /-- Ask for the status of the stored certificate. -/
  | status
  deriving DecidableEq, Repr

namespace Command

/-- The byte that ends a command on the wire. -/
def terminator : UInt8 := 0x0D

/-- The setting that receives the markers and the certificate lines. -/
def uploadSetting : String := "mqtt.cert.upload"

/-- The setting that reports the stored certificate. -/
def statusSetting : String := "mqtt.cert.status"

/-- The command without its terminator. -/
def text : Command → String
  | .begin => "set " ++ uploadSetting ++ " BEGIN"
  | .line content => "set " ++ uploadSetting ++ " " ++ content
  | .finish => "set " ++ uploadSetting ++ " END"
  | .status => "get " ++ statusSetting

/-- The bytes of a command on the wire. -/
def encode (command : Command) : List UInt8 := Utf8.encode command.text.toList ++ [terminator]

end Command

end CertConsole
