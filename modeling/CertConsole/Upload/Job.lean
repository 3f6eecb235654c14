import CertConsole.Files
import CertConsole.Port.SerialLine
import CertConsole.Upload.Phases

/-!
# Upload jobs

A job is all that an upload is given: the settings of the port, the plan and the certificate. It is
checked before the port is opened, so unusable settings never reach a device.
-/
namespace CertConsole

/-- What an upload is given. -/
structure UploadJob where
  /-- The settings that the port is opened with. -/
  serial : SerialSettings
  /-- The waiting times and read limits. -/
  plan : UploadPlan := {}
  /-- The certificate to send. -/
  certificate : Certificate
  deriving DecidableEq, Repr

/-- What came of a job. -/
structure Attempt (σ : Type) where
  /-- The report, or the fault that kept the upload from having one. -/
  result : Except Fault UploadReport
  /-- The events told, in order. -/
  log : List Event := []
  /-- The certificate lines reported as sent. -/
  progress : List (Nat × Nat) := []
  /-- The port as it was left, if one was opened. -/
  port : Option σ := none

namespace UploadJob

/-- A job that can be carried out. The settings of the port are judged first. -/
def check (job : UploadJob) : Except ConfigFault Unit := do
  job.serial.check
  job.plan.check

/-- The event that tells that a port is about to be opened. -/
def openingEvent (serial : SerialSettings) : Event :=
  .opening serial.port serial.baud serial.timeout

variable {σ : Type} [Port σ]

/-- The session that an upload starts in. -/
def session (serial : SerialSettings) (port : σ) : Session σ :=
  { port, log := [openingEvent serial, .uploadingTo serial.port] }

/-- Check a job, open its port and carry out the upload. -/
def perform (openPort : SerialSettings → Except OpenError σ) (job : UploadJob) : Attempt σ :=
  match job.check with
  | .error cause => { result := .error (.config cause) }
  | .ok () =>
    match openPort job.serial with
    | .error error =>
      { result := .error (.port (.driver error.message)), log := [openingEvent job.serial] }
    | .ok port =>
      let (result, last) := (Upload.run job.plan job.certificate).run (session job.serial port)
      { result := result.mapError .port, log := last.log, progress := last.progress
        port := some last.port }

/-- Upload the certificate in a file with the default settings. The file is read first. -/
def performFile (files : Files) (openPort : SerialSettings → Except OpenError σ)
    (port path : String) : Attempt σ :=
  match Certificate.ofFile files path with
  | .error fault => { result := .error fault }
  | .ok certificate => perform openPort { serial := { port }, certificate }

end UploadJob

end CertConsole
