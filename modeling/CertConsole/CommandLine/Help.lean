import CertConsole.Text.Plain

/-!
# Help texts

What the program prints about itself.
-/
namespace CertConsole.Help

/-- The name that the program is called by. -/
def programName : String := "upload_cert"

/-- The version of the program. -/
def version : String := "0.1.0"

/-- What is printed when the version is asked for. -/
def versionText : String := programName ++ " " ++ version ++ "\n"

/-- What is printed when the arguments cannot be used. -/
def usage : String :=
  "Usage: upload_cert <serial_port> <cert_file>\n"
    ++ "Example: upload_cert /dev/cu.usbserial-0001 mqtt_ca.crt\n"

/-- The environment variable that holds a baud rate. -/
def baudVariable : String := "CERTUPLOAD_BAUD"

/-- The heading of a part of the help text. -/
def heading (text : String) : String := Text.styled "1;4" text

/-- Something to be typed as it stands. -/
def literal (text : String) : String := Text.styled "1" text

/-- The column that the explanations stand in. -/
def explanationColumn : Nat := 23

/-- A value with its lines, but for the first, in the column of the explanations. -/
def inColumn (value : String) : String :=
  String.ofList (value.toList.flatMap fun char =>
    if char = '\n' then '\n' :: List.replicate explanationColumn ' ' else [char])

/-- What is printed when help is asked for. It shows the baud rate that the environment holds. -/
def text (environmentBaud : Option String) : String :=
  "Command-line tool for uploading CA certificates over a device serial console\n"
    ++ "\n"
    ++ heading "Usage:" ++ " " ++ literal programName ++ " [OPTIONS] <PORT> <CERT_FILE>\n"
    ++ "\n"
    ++ heading "Arguments:" ++ "\n"
    ++ "  <PORT>       Serial port the device console is attached to\n"
    ++ "  <CERT_FILE>  Certificate file to upload\n"
    ++ "\n"
    ++ heading "Options:" ++ "\n"
    ++ "  " ++ literal "-b" ++ ", " ++ literal "--baud" ++ " <BAUD>    Console baud rate [env: "
    ++ baudVariable ++ "=" ++ inColumn (environmentBaud.getD "") ++ "]\n"
    ++ "  " ++ literal "-v" ++ ", " ++ literal "--verbose" ++ "...     "
    ++ "Verbose output level (-v, -vv for increasing detail)\n"
    ++ "  " ++ literal "-q" ++ ", " ++ literal "--quiet" ++ "          "
    ++ "Quiet mode (suppress non-essential output)\n"
    ++ "      " ++ literal "--json" ++ "           Print the upload report as JSON to stdout\n"
    ++ "      " ++ literal "--config" ++ " <PATH>  Path to a configuration file\n"
    ++ "  " ++ literal "-h" ++ ", " ++ literal "--help" ++ "           Print help\n"
    ++ "  " ++ literal "-V" ++ ", " ++ literal "--version" ++ "        Print version\n"

end CertConsole.Help
