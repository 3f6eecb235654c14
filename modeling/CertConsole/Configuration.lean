import CertConsole.Port.SerialLine
import CertConsole.Toml.Document
import CertConsole.Upload.Plan

/-!
# Configurations

A configuration file may set the speed and timeout of the serial port and the waiting times and read
limits of an upload. Every setting may be left open. Configurations are laid over each other setting
by setting, and what stays open in the end has a default.
-/
namespace CertConsole

/-- What a configuration says about the serial port. -/
structure SerialSection where
  /-- The speed of the line. -/
  baud : Option Nat := none
  /-- The time that one console line is waited for. -/
  timeout : Option Milliseconds := none
  deriving DecidableEq, Repr

/-- What a configuration says about the phases of an upload. -/
structure UploadSection where
  /-- The wait before input that the console printed on its own is discarded. -/
  settleDelay : Option Milliseconds := none
  /-- The wait after the begin marker. -/
  beginWait : Option Milliseconds := none
  /-- The wait after each certificate line. -/
  lineDelay : Option Milliseconds := none
  /-- The wait after the end marker. -/
  endWait : Option Milliseconds := none
  /-- The wait after the status query. -/
  statusWait : Option Milliseconds := none
  /-- The lines that may be read for the answer to the begin marker. -/
  beginAttempts : Option Nat := none
  /-- The lines that may be read for the save confirmation. -/
  endAttempts : Option Nat := none
  /-- The lines that may be read for the status. -/
  statusAttempts : Option Nat := none
  deriving DecidableEq, Repr

/-- The settings that a configuration file may hold. -/
structure Configuration where
  /-- The settings of the serial port. -/
  serial : SerialSection := {}
  /-- The settings of the upload. -/
  upload : UploadSection := {}
  deriving DecidableEq, Repr

namespace Configuration

/-- One configuration laid over another: a setting of the lower one counts where the upper one
leaves it open. -/
def overlay (upper lower : Configuration) : Configuration where
  serial :=
    { baud := upper.serial.baud.or lower.serial.baud
      timeout := upper.serial.timeout.or lower.serial.timeout }
  upload :=
    { settleDelay := upper.upload.settleDelay.or lower.upload.settleDelay
      beginWait := upper.upload.beginWait.or lower.upload.beginWait
      lineDelay := upper.upload.lineDelay.or lower.upload.lineDelay
      endWait := upper.upload.endWait.or lower.upload.endWait
      statusWait := upper.upload.statusWait.or lower.upload.statusWait
      beginAttempts := upper.upload.beginAttempts.or lower.upload.beginAttempts
      endAttempts := upper.upload.endAttempts.or lower.upload.endAttempts
      statusAttempts := upper.upload.statusAttempts.or lower.upload.statusAttempts }

/-- The settings that a port is opened with, where a speed given elsewhere goes first. -/
def serialSettings (config : Configuration) (port : String) (baud : Option Nat) :
    SerialSettings where
  port
  baud := (baud.or config.serial.baud).getD defaultBaud
  timeout := config.serial.timeout.getD defaultTimeout

/-- The plan that an upload follows. -/
def plan (config : Configuration) : UploadPlan :=
  let defaults : UploadPlan := {}
  { settleDelay := config.upload.settleDelay.getD defaults.settleDelay
    beginWait := config.upload.beginWait.getD defaults.beginWait
    lineDelay := config.upload.lineDelay.getD defaults.lineDelay
    endWait := config.upload.endWait.getD defaults.endWait
    statusWait := config.upload.statusWait.getD defaults.statusWait
    beginAttempts := config.upload.beginAttempts.getD defaults.beginAttempts
    endAttempts := config.upload.endAttempts.getD defaults.endAttempts
    statusAttempts := config.upload.statusAttempts.getD defaults.statusAttempts }

end Configuration

end CertConsole
