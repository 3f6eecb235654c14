import CertConsole.CommandLine.Arguments
import CertConsole.CommandLine.Help
import CertConsole.CommandLine.Notice
import CertConsole.CommandLine.Summary

/-!
# Endings

What comes after an upload, or instead of it: the exit code, the last notices and the text on
standard output.
-/
namespace CertConsole

/-- How a run ends. -/
structure Ending where
  /-- The exit code: zero where the device confirmed the upload. -/
  exitCode : Nat
  /-- What is told at the end. -/
  notices : List Notice := []
  /-- What is printed on standard output. -/
  output : String := ""
  deriving DecidableEq, Repr

namespace Ending

/-- The end of a run that has no report. -/
def failed : Ending := { exitCode := 1 }

/-- The end of a run with a report. -/
def ofReport (options : OutputOptions) (report : UploadReport) : Ending where
  exitCode := if report.success then 0 else 1
  notices := if options.quiet then [] else report.summary.map .line
  output := if options.json then report.toJson.render ++ "\n" else ""

/-- The end of a run whose upload was begun. -/
def conclude (options : OutputOptions) (port : String) (result : Except Fault UploadReport) :
    Ending :=
  match result with
  | .ok report => ofReport options report
  | .error fault => { failed with notices := [(Failure.upload port fault).notice] }

/-- The end of a run whose arguments are not carried out. -/
def stopped (environmentBaud : Option String) : ArgumentStop → Ending
  | .help => { exitCode := 0, output := Text.plain .suspends (Help.text environmentBaud) }
  | .version => { exitCode := 0, output := Help.versionText }
  | stop =>
    { exitCode := 1
      notices := (stop.message?.map fun message => .line (Text.plain .breaksOff message)).toList
      output := Help.usage }

end Ending

end CertConsole
