import CertConsole.CommandLine.Arguments
import CertConsole.CommandLine.Notice
import CertConsole.Configuration.Sources
import CertConsole.Upload.Job

/-!
# Preparations

What comes before the port is opened: the configuration is gathered and judged, the certificate is
read, and the job is announced. A configuration that cannot be used is told even where the
certificate cannot be read either.
-/
namespace CertConsole

namespace Arguments

/-- The configuration that the arguments and the files give, and what the log tells about it. -/
def configuration (arguments : Arguments) (environment : Environment) (files : Files) :
    Configuration × List Event :=
  Configuration.gather environment files arguments.config

/-- The files that a run may read. -/
def paths (arguments : Arguments) (environment : Environment) : List String :=
  (match arguments.config with
    | some path => [path]
    | none => (Configuration.globalPath? environment).toList ++ [Configuration.localPath]) ++
    [arguments.certificate]

/-- What the upload is given, if the configuration and the certificate can be used. -/
def job (arguments : Arguments) (config : Configuration) (files : Files) :
    Except Failure UploadJob :=
  let plan := config.plan
  let serial := config.serialSettings arguments.port arguments.baud
  match plan.check, serial.check with
  | .error cause, _ => .error (.configuration cause)
  | .ok (), .error cause => .error (.configuration cause)
  | .ok (), .ok () =>
    match Certificate.ofFile files arguments.certificate with
    | .error fault => .error (.certificate fault)
    | .ok certificate => .ok { serial, plan, certificate }

/-- What is told about a job before it is begun. -/
def announcement (arguments : Arguments) (job : UploadJob) : List Notice :=
  (if job.certificate.isEmpty then [.event (.emptyCertificate arguments.certificate)] else []) ++
    if arguments.output.quiet then []
    else [.line ("🔌 Uploading " ++ arguments.certificate ++ " to " ++ job.serial.port ++ " ("
      ++ toString job.serial.baud ++ " baud)...")]

/-- All that comes before the port is opened: the job, and what is told. -/
def prepare (arguments : Arguments) (environment : Environment) (files : Files) :
    Except Failure UploadJob × List Notice :=
  let (config, events) := arguments.configuration environment files
  let start := .event (.programStarted arguments.output.verbose) :: events.map Notice.event
  match arguments.job config files with
  | .ok job => (.ok job, start ++ arguments.announcement job)
  | .error failure => (.error failure, start ++ [failure.notice])

end Arguments

end CertConsole
