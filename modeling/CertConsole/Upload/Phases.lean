import CertConsole.Upload.Plan
import CertConsole.Upload.Report
import CertConsole.Upload.Session

/-!
# The phases of an upload

An upload is a fixed sequence of phases. `settle` discards what the console printed on its own,
`begin` sends the begin marker and waits for the device to accept it, `stream` sends the certificate
line by line, `finish` sends the end marker and waits for the save confirmation, and `verify` asks
for the status. Only the answer to the begin marker can end an upload early; a missing confirmation
or status goes into the report.
-/
namespace CertConsole

namespace Upload

open Procedure

variable {σ : Type} [Port σ]

/-- Give the console time to come up and discard what it printed on its own. -/
def settle (plan : UploadPlan) : Procedure σ Unit := do
  tell [.settling (Port.name (← get).port)]
  pause plan.settleDelay
  clearInput

/-- What a line says in answer to the begin marker. Acceptance wins where it says both. -/
def beginAnswer? (line : String) : Option BeginOutcome :=
  if Reply.acceptsUpload line then some .ready
  else if Reply.refusesUpload line then some (.refused line)
  else none

/-- How the log tells the answer to the begin marker. -/
def beginEvent : BeginOutcome → Event
  | .ready => .uploadStarted
  | .refused line => .uploadRefused line
  | .noResponse => .uploadUnanswered

/-- Send the begin marker and wait for its answer. -/
def begin (plan : UploadPlan) : Procedure σ BeginOutcome := do
  send .begin
  pause plan.beginWait
  let outcome := (← poll beginAnswer? plan.beginAttempts).getD .noResponse
  tell [beginEvent outcome]
  return outcome

/-- Send lines, each followed by the read of one reply line whose content does not matter, count
them from a number on, and return the count. -/
def streamFrom (delay : Milliseconds) (total : Nat) : Nat → List String → Procedure σ Nat
  | sent, [] => return sent
  | sent, line :: lines => do
    send (.line line)
    pause delay
    let _ ← readLine
    advance (sent + 1) total
    streamFrom delay total (sent + 1) lines

/-- Send the certificate lines and return how many were sent. -/
def stream (plan : UploadPlan) (certificate : Certificate) : Procedure σ Nat := do
  tell [.sendingLines certificate.lineCount]
  streamFrom plan.lineDelay certificate.lineCount 0 certificate.lines

/-- The sign that a line confirms that the certificate was saved. -/
def saveConfirmed? (line : String) : Option Unit :=
  if Reply.confirmsSave line then some () else none

/-- Send the end marker and look for the save confirmation. -/
def finish (plan : UploadPlan) : Procedure σ Bool := do
  send .finish
  pause plan.endWait
  let saved := (← poll saveConfirmed? plan.endAttempts).isSome
  tell [if saved then .certificateSaved else .saveUnconfirmed]
  return saved

/-- How the log tells the CA status. -/
def caEvent : CaStatus → Event
  | .present => .caPresent
  | .absent => .caAbsent
  | .notReported => .caUnreported

/-- Ask for the status. The first line with a CA field decides, whatever its value. -/
def verify (plan : UploadPlan) : Procedure σ CaStatus := do
  send .status
  pause plan.statusWait
  let status := CaStatus.ofField (← poll Reply.caField? plan.statusAttempts)
  tell [caEvent status]
  return status

/-- All phases in order. -/
def phases (plan : UploadPlan) (certificate : Certificate) : Procedure σ UploadReport := do
  let size := certificate.storedSize
  if Certificate.capacity ≤ size then tell [.overCapacity size]
  settle plan
  match ← begin plan with
  | .ready =>
    let linesSent ← stream plan certificate
    let saved ← finish plan
    let caStatus ← verify plan
    let report : UploadReport := ⟨.ready, linesSent, saved, caStatus⟩
    tell [if report.success then .uploadConfirmed else .uploadUnconfirmed]
    return report
  | outcome => return .aborted outcome

/-- A whole upload. The port is closed however the phases end; an error of theirs is told before
one of closing. -/
def run (plan : UploadPlan) (certificate : Certificate) : Procedure σ UploadReport :=
  fun session =>
    let (report, after) := (phases plan certificate).run session
    let (closed, last) := close.run after
    match report, closed with
    | .error error, _ => (.error error, last)
    | .ok _, .error error => (.error error, last)
    | .ok report, .ok () => (.ok report, last)

end Upload

end CertConsole
