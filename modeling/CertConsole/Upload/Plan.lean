import CertConsole.Fault
import CertConsole.Text.Duration

/-!
# Upload plans

A plan holds the waiting times of an upload and how many lines each phase may read before it gives
up.
-/
namespace CertConsole

/-- Waiting times and read limits of an upload. -/
structure UploadPlan where
  /-- The wait before input that the console printed on its own is discarded. -/
  settleDelay : Milliseconds := 500
  /-- The wait after the begin marker. -/
  beginWait : Milliseconds := 2000
  /-- The wait after each certificate line. -/
  lineDelay : Milliseconds := 100
  /-- The wait after the end marker. -/
  endWait : Milliseconds := 1000
  /-- The wait after the status query. -/
  statusWait : Milliseconds := 1000
  /-- The lines that may be read for the answer to the begin marker. -/
  beginAttempts : Nat := 100
  /-- The lines that may be read for the save confirmation. -/
  endAttempts : Nat := 20
  /-- The lines that may be read for the status. -/
  statusAttempts : Nat := 20
  deriving DecidableEq, Repr

/-- A plan in which every phase may read at least one line. The phases are judged in their order. -/
def UploadPlan.check (plan : UploadPlan) : Except ConfigFault Unit :=
  if plan.beginAttempts = 0 then .error .noBeginAttempts
  else if plan.endAttempts = 0 then .error .noEndAttempts
  else if plan.statusAttempts = 0 then .error .noStatusAttempts
  else .ok ()

end CertConsole
